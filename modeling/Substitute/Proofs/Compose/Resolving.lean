import Substitute.Compose.Toggling
import Substitute.Proofs.Command.RoundTrip

/-!
# The command on the line

A readable command is found again on the line that holds its text, whatever the session is. Without a session, what is found on any line lacks little of being readable: its search and replace term hold no separator outside escape pairs, but either may end the line in a lone backslash.
-/

namespace Substitute

private theorem splitCommand_of_head {t range rest : Text} {mark : Char}
    (hhead : splitHead? t = some (range, mark, rest)) :
    splitCommand t [mark] = range :: Field.split [mark] (some 2) rest := by
  obtain ⟨hrange, -, ht⟩ := splitHead?_eq_some_iff.mp hhead
  rw [splitCommand, splitRange?_eq_some_iff.mpr ⟨hrange, ht⟩]
  exact if_pos rfl

/-- The fields after a range are filled up so that search and replace term hold no separator outside escape pairs. -/
theorem exists_normalizeFields (mark : Char) (range rest : Text) :
    ∃ search replace flags,
      normalizeFields (range :: Field.split [mark] (some 2) rest) =
        .ok (range, search, replace, flags) ∧
      Field.countUnescaped mark search = 0 ∧ Field.countUnescaped mark replace = 0 := by
  rcases Field.split_cases (show some 2 ≠ some 0 by simp) mark rest with
    ⟨search, after, -, hsearch, -, hsplit⟩ | ⟨hcount, hsplit⟩
  · rw [hsplit, Option.map_some]
    rcases Field.split_cases (show some 1 ≠ some 0 by simp) mark after with
      ⟨replace, flags, -, hreplace, -, hsplit⟩ | ⟨hcount, hsplit⟩
    · rw [hsplit, Option.map_some, Field.split_zero]
      exact ⟨search, replace, flags, rfl, hsearch.unescaped, hreplace.unescaped⟩
    · rw [hsplit]
      exact ⟨search, after, [], rfl, hsearch.unescaped, hcount⟩
  · rw [hsplit]
    exact ⟨rest, rest, [], rfl, hcount, hcount⟩

namespace Session

variable {s : Session} {c : Command} {mark : Char} {t : Text}

theorem resolve_of_head {range rest : Text} (s : Session)
    (hhead : splitHead? t = some (range, mark, rest)) :
    s.resolve t =
      (Command.ofFields (range :: Field.split [mark] (some 2) rest) [mark]).map some := by
  have hparse : ∃ p, Command.parse? t = some p ∧ p.separator = [mark] := by
    rw [Command.parse?, hhead]
    exact ⟨_, rfl, rfl⟩
  obtain ⟨p, hp, hseparator⟩ := hparse
  simp only [resolve, hp, hseparator, splitCommand_of_head hhead]

theorem resolve_serialize (s : Session) (hc : c.Readable mark) :
    s.resolve c.serialize = .ok (some c) := by
  rw [s.resolve_of_head hc.splitHead?_serialize, hc.split_fields]
  rw [← hc.separator, Command.ofFields, normalizeFields]
  simp only [Except.map, Command.eq_make hc.dialect]

/-- What is found without a session is readable, unless a field ends in a lone backslash or a backslash separates. -/
theorem exists_readable_of_resolve (hactive : s.active = false)
    (hresolve : s.resolve t = .ok (some c)) (hseparator : c.separator ≠ ['\\'])
    (hsearch : Field.endsUnpaired c.search = false)
    (hreplace : Field.endsUnpaired c.replace = false) : ∃ mark, c.Readable mark := by
  cases hhead : splitHead? t with
  | none =>
    simp [resolve, Command.parse?, hhead, hactive] at hresolve
  | some head =>
    obtain ⟨range, mark, rest⟩ := head
    obtain ⟨hrange, hmark, -⟩ := splitHead?_eq_some_iff.mp hhead
    obtain ⟨search, replace, flags, hfields, hsearch_count, hreplace_count⟩ :=
      exists_normalizeFields mark range rest
    rw [s.resolve_of_head hhead, Command.ofFields, hfields] at hresolve
    obtain rfl := Option.some.inj (Except.ok.inj hresolve)
    have hne : mark ≠ '\\' := by
      rintro rfl
      exact hseparator rfl
    exact ⟨mark, hrange, rfl, hmark, hne, rfl, ⟨hsearch_count, hsearch⟩, ⟨hreplace_count, hreplace⟩⟩

end Session

end Substitute
