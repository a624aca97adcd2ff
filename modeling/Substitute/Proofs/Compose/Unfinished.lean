import Substitute.Proofs.Command.Grammar
import Substitute.Proofs.Compose.Resolving

/-!
# Commands that are still being typed

A line can read as a command before all of its separators are there. Toggles cut it where reading cuts it, at the separator that stands on the line and not at the one that the session has noted. They differ from reading only in a replace term that has not been begun: it is read as empty, and toggled as a copy of the search.
-/

namespace Substitute

namespace Command

theorem ofFields_cons (separator range : Text) {fields : List Text} (hne : fields ≠ [])
    (hmost : fields.length ≤ 3) :
    let p := make separator range (fields.headD []) (fields.getD 1 []) (fields.getD 2 [])
    ofFields (range :: fields) separator =
      .ok (if fields.length = 1 then { p with replace := p.search } else p) := by
  match fields, hne, hmost with
  | [_], _, _ => rfl
  | [_, _], _, _ => rfl
  | [_, _, _], _, _ => rfl

end Command

namespace Session

variable {t : Text} {p : Command}

/-- On a line that is read as a command, a toggle finds that command in any session, provided that a further separator stands, outside escape pairs, behind the first one after the range. Otherwise it finds the command with its search as the replace term. -/
theorem resolve_of_parse? (s : Session) (hread : Command.parse? t = some p) :
    ∃ mark rest, p.separator = [mark] ∧ t = p.range ++ mark :: rest ∧
      (0 < Field.countUnescaped mark rest → s.resolve t = .ok (some p)) ∧
      (Field.countUnescaped mark rest = 0 →
        s.resolve t = .ok (some { p with replace := p.search })) := by
  rw [Command.parse?, Option.map_eq_some_iff] at hread
  obtain ⟨⟨range, mark, rest⟩, hhead, rfl⟩ := hread
  obtain ⟨-, -, htext⟩ := splitHead?_eq_some_iff.mp hhead
  have hlength := Field.length_split mark 2 rest
  have hfields := Command.ofFields_cons [mark] range (Field.split_ne_nil [mark] (some 2) rest)
    (by omega)
  refine ⟨mark, rest, rfl, htext, fun hmore => ?_, fun hlast => ?_⟩
  · rw [s.resolve_of_head hhead, hfields, if_neg (by omega)]
    rfl
  · rw [s.resolve_of_head hhead, hfields, if_pos (by omega)]
    rfl

theorem resolve_of_parse?_escaped :
    let s : Session := { active := true, captured := "x", separator := "#", dialect := [] }
    let unfinished := Command.make "," ".,$s" "a\\,b" [] []
    let begun := Command.make "\\" "%s" "a\\b" [] []
    Command.parse? ".,$s,a\\,b" = some unfinished ∧
      s.resolve ".,$s,a\\,b" = .ok (some { unfinished with replace := unfinished.search }) ∧
      Command.parse? "%s\\a\\b\\" = some begun ∧
      s.resolve "%s\\a\\b\\" = .ok (some begun) := by
  intro s unfinished begun
  have hunfinished : Command.parse? ".,$s,a\\,b" = some unfinished := by decide
  have hbegun : Command.parse? "%s\\a\\b\\" = some begun := by decide
  obtain ⟨_, rest, hcomma, htext, -, hcopied⟩ := s.resolve_of_parse? hunfinished
  obtain ⟨_, rest', hslash, htext', hfound, -⟩ := s.resolve_of_parse? hbegun
  obtain rfl := (List.cons.inj hcomma).1
  obtain rfl := (List.cons.inj hslash).1
  have hrest : (".,$s," : Text) ++ ("a\\,b" : Text) = (".,$s," : Text) ++ rest := htext
  have hrest' : ("%s\\" : Text) ++ ("a\\b\\" : Text) = ("%s\\" : Text) ++ rest' := htext'
  obtain rfl := List.append_cancel_left hrest
  obtain rfl := List.append_cancel_left hrest'
  exact ⟨hunfinished, hcopied (by decide), hbegun, hfound (by decide)⟩

end Session

end Substitute
