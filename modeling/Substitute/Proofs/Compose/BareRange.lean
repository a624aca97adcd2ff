import Substitute.Proofs.Command.Toggle
import Substitute.Proofs.Compose.Unfinished

/-!
# Ranges without a separator

A line that is a range and nothing more is no command yet, so only a session makes a toggle find one there. It is cut at the separator that the session has noted, and a range is kept whole only where a separator follows it: one that holds the separator itself comes apart.
-/

namespace Substitute

theorem Field.countUnescaped_eq_count {mark : Char} {t : Text} (ht : '\\' ∉ t) :
    countUnescaped mark t = t.count mark := by
  induction t using pair_induction with
  | nil => rfl
  | lone => exact absurd List.mem_cons_self ht
  | pair c rest ih => exact absurd List.mem_cons_self ht
  | char c rest hc ih =>
    rw [countUnescaped_char hc, ih fun h => ht (List.mem_cons_of_mem _ h), List.count_cons,
      Nat.add_comm]
    simp only [beq_iff_eq]

private theorem IsRange.backslash_notMem {line : Text} (hline : IsRange line) : '\\' ∉ line := by
  obtain ⟨run, hrun, rfl⟩ := hline
  intro hmem
  rcases List.mem_append.mp hmem with hmem | hmem
  · exact absurd (hrun _ hmem) (by decide)
  · exact absurd hmem (by decide)

theorem splitRange?_range {line : Text} (hline : IsRange line) :
    splitRange? line = some (line, []) :=
  splitRange?_eq_some_iff.mpr ⟨hline, (List.append_nil line).symm⟩

namespace Session

variable {s : Session} {line : Text}

/-- In a session, a range without a separator is cut from its start, like any text that opens with no range. -/
theorem resolve_range (hactive : s.active = true) (hvalid : isValidSeparator s.separator = true)
    (hline : IsRange line) :
    s.resolve line =
      (Command.ofFields (Field.split s.separator (some 3) line) s.separator).map some := by
  have hparse : Command.parse? line = none := by
    rw [Command.parse?, splitHead?, splitRange?_range hline]
    rfl
  have hcut : splitCommand line s.separator = Field.split s.separator (some 3) line := by
    have hne : [] ≠ s.separator := fun h => by simp [← h, isValidSeparator] at hvalid
    rw [splitCommand, splitRange?_range hline]
    exact if_neg hne
  simp only [resolve, hparse, hactive, if_true, hcut]

/-- In a session with a separator that can separate, a toggle finds a command on every line that is a range without a separator. The whole line is its range and its fields are empty exactly when the separator does not occur in the line; otherwise its range is what stands before the first one. -/
theorem resolve_range_whole_iff (hactive : s.active = true)
    (hvalid : isValidSeparator s.separator = true) (hline : IsRange line) :
    ∃ c, s.resolve line = .ok (some c) ∧
      (c.range = line ∧ c.search = [] ∧ c.replace = [] ∧ c.flags = [] ↔
        s.separator.occursIn line = false) ∧
      (s.separator.occursIn line = true →
        ∃ rest, line = c.range ++ s.separator ++ rest ∧ s.separator.occursIn c.range = false) := by
  obtain ⟨mark, hmark⟩ : ∃ mark, s.separator = [mark] := by
    match s.separator, hvalid with
    | [mark], _ => exact ⟨mark, rfl⟩
  rw [resolve_range hactive hvalid hline, hmark]
  simp only [Text.occursIn_singleton_eq, decide_eq_false_iff_not, decide_eq_true_iff]
  have hplain := hline.backslash_notMem
  rcases Field.split_cases (show some 3 ≠ some 0 by simp) mark line with
    ⟨first, rest, hcut, hfirst, -, hsplit⟩ | ⟨hcount, hsplit⟩
  · -- the separator stands in the range, which ends before it
    have hfields := Field.split_ne_nil [mark] (some 2) rest
    have hmost := Field.length_split_le [mark] (n := 2) rfl rest
    have hfirst_plain : '\\' ∉ first := fun h => hplain (hcut ▸ List.mem_append_left _ h)
    have hfree : mark ∉ first := by
      rw [← List.count_eq_zero, ← Field.countUnescaped_eq_count hfirst_plain, hfirst.unescaped]
    have hmem : mark ∈ line := by simp [hcut]
    have hshort : first ≠ line := fun h => hfree (h ▸ hmem)
    rw [hsplit, Option.map_some, Command.ofFields_cons [mark] first hfields (by omega)]
    refine ⟨_, rfl, ?_, fun _ => ⟨rest, ?_, ?_⟩⟩
    · split <;> simp [Command.make, hshort, hmem]
    · split <;> simp [Command.make, hcut]
    · split <;> exact hfree
  · -- nothing to cut at, so all but the range is filled up
    have hfree : mark ∉ line := by
      rwa [← List.count_eq_zero, ← Field.countUnescaped_eq_count hplain]
    rw [hsplit]
    exact ⟨_, rfl, by simp [Command.make, hfree], fun hmem => absurd hmem hfree⟩

theorem resolve_range_whole_iff_dollar :
    let s : Session := { active := true, captured := "x", separator := "$", dialect := [] }
    (∃ c, s.resolve "%s" = .ok (some c) ∧ c.range = ("%s" : Text) ∧ c.search = [] ∧
      c.replace = [] ∧ c.flags = []) ∧
      ∃ c rest, s.resolve ".,$s" = .ok (some c) ∧ (".,$s" : Text) = c.range ++ "$" ++ rest ∧
        Text.occursIn "$" c.range = false := by
  intro s
  have hvalid : isValidSeparator s.separator = true := by decide
  have hpercent : IsRange "%s" := isRange_append "%" (by decide)
  have hdollar : IsRange ".,$s" := isRange_append ".,$" (by decide)
  obtain ⟨c, hc, hwhole, -⟩ := resolve_range_whole_iff rfl hvalid hpercent
  obtain ⟨d, hd, -, hcut⟩ := resolve_range_whole_iff rfl hvalid hdollar
  obtain ⟨rest, hline, hfree⟩ := hcut (by decide)
  exact ⟨⟨c, hc, hwhole.mpr (by decide)⟩, d, rest, hd, hline, hfree⟩

/-- A range that holds the session's separator is cut at it. -/
theorem resolve_range_cut :
    let s : Session := { active := true, captured := "foo", separator := ",", dialect := "\\V" }
    isValidSeparator s.separator = true ∧ IsRange ".,$s" ∧
      s.resolve ".,$s" = .ok (some (Command.make "," "." "$s" "$s" [])) ∧
      ¬∃ c, s.resolve ".,$s" = .ok (some c) ∧
        c.range = (".,$s" : Text) ∧ c.search = [] ∧ c.replace = [] ∧ c.flags = [] := by
  intro s
  have hfound : s.resolve ".,$s" = .ok (some (Command.make "," "." "$s" "$s" [])) := by decide
  refine ⟨by decide, isRange_append ".,$" (by decide), hfound, ?_⟩
  rintro ⟨c, hc, hrange, -⟩
  rw [hfound] at hc
  obtain rfl := Option.some.inj (Except.ok.inj hc)
  exact absurd hrange (by decide)

end Session

end Substitute
