import Substitute.Proofs.Command.Dialects
import Substitute.Proofs.Settings.Accepted

/-!
# Dialects that are listed twice

Accepted settings name known dialects, but they may name one twice. A step goes on from the first place that names the current dialect, so from a repetition it goes on where that dialect stood first, and never to what is listed behind. Steps come by every dialect, and back in as many steps as are listed, only when no dialect is new behind the first repetition, that is one of the first dialect, and the list is as long as whole rounds are.
-/

namespace Substitute

/-- A list that opens with each of its dialects once. If it goes on, it starts over with the first of them, and it is as long as whole rounds are. -/
structure OpensWithRound (dialects round rest : List Text) : Prop where
  eq_append : dialects = round ++ rest
  nodup : round.Nodup
  subset : ∀ dialect ∈ rest, dialect ∈ round
  again : (rest ++ round).head? = round.head?
  whole : round.length ∣ dialects.length

private theorem OpensWithRound.of_nodup {dialects : List Text} (hnodup : dialects.Nodup) :
    OpensWithRound dialects dialects [] :=
  ⟨(List.append_nil _).symm, hnodup, nofun, rfl, dvd_rfl⟩

/-- Every list is without repeats up to some place, where it ends or repeats one. -/
theorem exists_nodup_append (dialects : List Text) :
    ∃ round rest, dialects = round ++ rest ∧ round.Nodup ∧
      ∀ dialect, rest.head? = some dialect → dialect ∈ round := by
  induction dialects using List.reverseRecOn with
  | nil => exact ⟨[], [], rfl, List.nodup_nil, nofun⟩
  | append_singleton before last ih =>
    obtain ⟨round, rest, rfl, hnodup, hhead⟩ := ih
    cases rest with
    | cons first more =>
      exact ⟨round, first :: more ++ [last], List.append_assoc _ _ _, hnodup, hhead⟩
    | nil =>
      rw [List.append_nil]
      by_cases hmem : last ∈ round
      · refine ⟨round, [last], rfl, hnodup, fun dialect hlast => ?_⟩
        exact Option.some.inj hlast ▸ hmem
      · refine ⟨round ++ [last], [], (List.append_nil _).symm, ?_, nofun⟩
        exact List.nodup_append.mpr ⟨hnodup, List.nodup_singleton last,
          fun a ha b hb heq => hmem (List.mem_singleton.mp hb ▸ heq ▸ ha)⟩

namespace Command

variable {c : Command} {dialects round rest : List Text} {dialect next : Text} {i : Nat}

/-- In as many steps as dialects are listed, the command comes by each of them and is in the end what it was. -/
structure Tours (c : Command) (dialects : List Text) : Prop where
  visits : ∀ dialect ∈ dialects, ∃ n ≤ dialects.length,
    c.cycleDialects? dialects n = some (c.inDialect dialect)
  returns : c.cycleDialects? dialects dialects.length = some c

/-! ### One step -/

/-- After the last dialect before a repetition comes what is repeated. -/
theorem nextDialect?_append (hnodup : round.Nodup) (hi : round[i]? = some dialect) :
    nextDialect? (round ++ rest) dialect = (round[i + 1]?).or (rest ++ round).head? := by
  have hlt := (List.getElem?_eq_some_iff.mp hi).1
  have hhead : (round ++ rest).head? = round.head? :=
    List.head?_append_of_ne_nil _ (List.ne_nil_of_length_pos (Nat.zero_lt_of_lt hlt))
  rw [nextDialect?, idxOf?_append_of_nodup hnodup hi]
  dsimp only
  rw [hhead, List.head?_append]
  by_cases hlast : i + 1 < round.length
  · rw [List.getElem?_append_left hlast, List.getElem?_eq_getElem hlast, Option.some_or,
      Option.some_or]
  · rw [List.getElem?_append_right (by omega), show i + 1 - round.length = 0 by omega,
      ← List.head?_eq_getElem?, List.getElem?_eq_none (by omega), Option.none_or]

/-- When what comes after the last dialect stands at some place or behind it, no step leads back before that place. -/
theorem mem_drop_of_nextDialect? (hnodup : round.Nodup) {m : Nat}
    (hagain : ∀ first, (rest ++ round).head? = some first → first ∈ round.drop m)
    (dialect next : Text) (hdialect : dialect ∈ round.drop m)
    (hnext : nextDialect? (round ++ rest) dialect = some next) : next ∈ round.drop m := by
  obtain ⟨j, hj⟩ := List.mem_iff_getElem?.mp hdialect
  rw [List.getElem?_drop] at hj
  rw [nextDialect?_append hnodup hj] at hnext
  rcases Option.or_eq_some_iff.mp hnext with hnext | ⟨-, hnext⟩
  · rw [Nat.add_assoc, ← List.getElem?_drop] at hnext
    exact List.mem_of_getElem? hnext
  · exact hagain next hnext

private theorem inDialect_injective (c : Command) :
    Function.Injective fun dialect => some (c.inDialect dialect) :=
  fun _ _ heq => congrArg Command.dialect (Option.some.inj heq)

/-! ### Where steps cannot lead out -/

section Kept

variable (hkept : ∀ dialect ∈ dialects, detectDialect (dialect ++ c.searchBody) = dialect)
include hkept

theorem exists_cycleDialects_of_closed {P : Text → Prop}
    (hclosed : ∀ dialect next, P dialect → nextDialect? dialects dialect = some next → P next)
    (hne : dialects ≠ []) (hstart : P dialect) (n : Nat) :
    ∃ later, P later ∧ (c.inDialect dialect).cycleDialects? dialects n = some (c.inDialect later) := by
  induction n with
  | zero => exact ⟨dialect, hstart, rfl⟩
  | succ n ih =>
    obtain ⟨later, hlater, hn⟩ := ih
    obtain ⟨next, hnext⟩ := exists_nextDialect hne later
    refine ⟨next, hclosed later next hlater hnext, ?_⟩
    rw [cycleDialects?_succ, hn, Option.bind_some,
      cycleDialect?_inDialect_of_kept hnext (hkept next (nextDialect?_mem hnext))]

/-- A tour leads into whatever no step leads out of, so all dialects are in there when one is. -/
theorem Tours.forall_of_closed (h : c.Tours dialects) (hc : c.dialect = detectDialect c.search)
    {P : Text → Prop}
    (hclosed : ∀ dialect next, P dialect → nextDialect? dialects dialect = some next → P next)
    (hmem : dialect ∈ dialects) (hdialect : P dialect) : ∀ other ∈ dialects, P other := by
  have hne : dialects ≠ [] := List.ne_nil_of_mem hmem
  have hback : P c.dialect := by
    obtain ⟨n, hn, hthere⟩ := h.visits dialect hmem
    obtain ⟨later, hlater, hrest⟩ :=
      exists_cycleDialects_of_closed hkept hclosed hne hdialect (dialects.length - n)
    rw [← cycleDialects?_add hthere, Nat.sub_add_cancel hn, h.returns] at hrest
    rw [Option.some.inj hrest]
    exact hlater
  intro other hother
  obtain ⟨n, -, hthere⟩ := h.visits other hother
  obtain ⟨later, hlater, hn⟩ := exists_cycleDialects_of_closed hkept hclosed hne hback n
  rw [inDialect_self hc, hthere] at hn
  have hsame : other = later := congrArg Command.dialect (Option.some.inj hn)
  exact hsame ▸ hlater

/-! ### Tours -/

/-- Where the list starts over with its first dialect, the steps go around those before. -/
theorem goesAround_round (hdialects : dialects = round ++ rest) (hnodup : round.Nodup)
    (hagain : (rest ++ round).head? = round.head?) :
    GoesAround round (fun dialect => some (c.inDialect dialect))
      (·.bind (·.cycleDialect? dialects)) := by
  intro i dialect next hi hnext
  have hmem : next ∈ dialects :=
    hdialects ▸ List.mem_append_left rest (List.mem_of_getElem? hnext)
  refine cycleDialect?_inDialect_of_kept ?_ (hkept next hmem)
  rw [hdialects, nextDialect?_append hnodup hi]
  by_cases hlast : i + 1 < round.length
  · rw [Nat.mod_eq_of_lt hlast] at hnext
    rw [hnext, Option.some_or]
  · have hlt := (List.getElem?_eq_some_iff.mp hi).1
    have hlength : i + 1 = round.length := by omega
    rw [hlength, Nat.mod_self, ← List.head?_eq_getElem?] at hnext
    rw [List.getElem?_eq_none (by omega), Option.none_or, hagain, hnext]

/-- When the list goes on at some place of the round or behind it, that is where a tour keeps to. -/
theorem Tours.forall_mem_drop (h : c.Tours dialects) (hc : c.dialect = detectDialect c.search)
    (hdialects : dialects = round ++ rest) (hnodup : round.Nodup) {m : Nat}
    (hagain : ∀ first, (rest ++ round).head? = some first → first ∈ round.drop m) :
    ∀ dialect ∈ dialects, dialect ∈ round.drop m := by
  subst hdialects
  intro dialect hmem
  have hne : rest ++ round ≠ [] := List.ne_nil_of_mem (List.perm_append_comm.mem_iff.mp hmem)
  have hfirst := List.head?_eq_some_head hne
  have hlisted : (rest ++ round).head hne ∈ round ++ rest :=
    List.perm_append_comm.mem_iff.mp (List.head_mem hne)
  exact h.forall_of_closed hkept hc (mem_drop_of_nextDialect? hnodup hagain) hlisted
    (hagain _ hfirst) dialect hmem

/-- A list that is toured starts over, at its first repetition, with its first dialect. -/
theorem Tours.head?_again (h : c.Tours dialects) (hc : c.dialect = detectDialect c.search)
    (hdialects : dialects = round ++ rest) (hnodup : round.Nodup)
    (hrepeated : ∀ dialect, rest.head? = some dialect → dialect ∈ round) :
    (rest ++ round).head? = round.head? := by
  cases rest with
  | nil => rfl
  | cons first more =>
    obtain ⟨before, after, rfl⟩ := List.append_of_mem (hrepeated first rfl)
    have hbehind : ∀ dialect ∈ dialects, dialect ∈ first :: after := by
      have hkeeps := h.forall_mem_drop hkept hc hdialects hnodup (m := before.length)
      rw [List.drop_left] at hkeeps
      exact hkeeps fun dialect hdialect => Option.some.inj hdialect ▸ List.mem_cons_self
    cases before with
    | nil => rfl
    | cons start others =>
      -- the first dialect would have to stand behind itself
      have hstart : start ∈ first :: after := hbehind start (by simp [hdialects])
      exact absurd (List.mem_append_right others hstart) (List.nodup_cons.mp hnodup).1

/-- Where the list starts over with its first dialect, steps lead back in whole rounds only. -/
theorem cycleDialects?_eq_self_iff (hc : c.dialect = detectDialect c.search)
    (hdialects : dialects = round ++ rest) (hnodup : round.Nodup)
    (hagain : (rest ++ round).head? = round.head?) (hmem : c.dialect ∈ round) (n : Nat) :
    c.cycleDialects? dialects n = some c ↔ round.length ∣ n := by
  have hround := goesAround_round hkept hdialects hnodup hagain
  have hback := hround.iterate_eq_self_iff hnodup c.inDialect_injective hmem n
  rw [inDialect_self hc] at hback
  exact hback

private theorem Tours.exists_opensWithRound (h : c.Tours dialects)
    (hc : c.dialect = detectDialect c.search) (hmem : c.dialect ∈ dialects) :
    ∃ round rest, OpensWithRound dialects round rest := by
  obtain ⟨round, rest, hdialects, hnodup, hrepeated⟩ := exists_nodup_append dialects
  have hagain := h.head?_again hkept hc hdialects hnodup hrepeated
  have hlisted : ∀ dialect ∈ dialects, dialect ∈ round :=
    h.forall_mem_drop hkept hc hdialects hnodup (m := 0) fun first hfirst =>
      List.mem_of_head? (hagain ▸ hfirst)
  refine ⟨round, rest, hdialects, hnodup, fun dialect hdialect => ?_, hagain, ?_⟩
  · exact hlisted dialect (hdialects ▸ List.mem_append_right round hdialect)
  · exact (cycleDialects?_eq_self_iff hkept hc hdialects hnodup hagain (hlisted _ hmem) _).mp
      h.returns

private theorem tours_of_opensWithRound (h : OpensWithRound dialects round rest)
    (hc : c.dialect = detectDialect c.search) (hmem : c.dialect ∈ dialects) :
    c.Tours dialects := by
  have hround := goesAround_round hkept h.eq_append h.nodup h.again
  have hlisted : ∀ dialect ∈ dialects, dialect ∈ round := by
    intro dialect hdialect
    rw [h.eq_append, List.mem_append] at hdialect
    exact hdialect.elim id (h.subset dialect)
  have hlength : round.length ≤ dialects.length := by
    rw [h.eq_append, List.length_append]
    exact Nat.le_add_right _ _
  obtain ⟨i, hi⟩ := List.mem_iff_getElem?.mp (hlisted _ hmem)
  refine ⟨fun dialect hdialect => ?_, ?_⟩
  · obtain ⟨n, hn, hthere⟩ := exists_getElem?_add_mod (hlisted dialect hdialect) i
    have hvisit := hround.iterate hi n hthere
    rw [inDialect_self hc] at hvisit
    exact ⟨n, hn.le.trans hlength, hvisit⟩
  · exact (cycleDialects?_eq_self_iff hkept hc h.eq_append h.nodup h.again (hlisted _ hmem) _).mpr
      h.whole

end Kept

/-- Under accepted settings, and when the body of its search opens with no marker, a command in a listed dialect comes by all of them and back, in as many steps as are listed, exactly when the list consists of whole rounds: its dialects each once, and where it goes on, the first of them again and as many of them as whole rounds have. -/
theorem tours_iff_opensWithRound {config : Value} {settings : Settings}
    (hsettings : Settings.ofConfig config = .ok settings)
    (hc : c.dialect = detectDialect c.search) (hmem : c.dialect ∈ settings.dialects)
    (hbody : ∀ marker ∈ dialectMarkers, ¬marker <+: c.searchBody) :
    c.Tours settings.dialects ↔ ∃ round rest, OpensWithRound settings.dialects round rest := by
  have hkept : ∀ dialect ∈ settings.dialects,
      detectDialect (dialect ++ c.searchBody) = dialect := by
    intro dialect hdialect
    have hknown : IsDialect dialect :=
      (Settings.valid_of_ofConfig hsettings).dialects_known dialect hdialect
    exact detectDialect_append_of_ne hknown fun _ => detectDialect_eq_nil_iff.mpr hbody
  constructor
  · exact fun h => h.exists_opensWithRound hkept hc hmem
  · rintro ⟨round, rest, h⟩
    exact tours_of_opensWithRound hkept h hc hmem

theorem tours_iff_opensWithRound_twice :
    let config : Value :=
      .map [(.text "dialects", .list [.text "\\v", .text "", .text "\\v", .text ""])]
    let c := make "/" "%s" "foo" "bar" "g"
    c.Tours Settings.initial.dialects ∧
      ∃ settings, Settings.ofConfig config = .ok settings ∧ c.Tours settings.dialects := by
  intro config c
  have haccepted : Settings.ofConfig .null = .ok .initial := rfl
  have haccepted_twice : Settings.ofConfig config =
      .ok { Settings.initial with dialects := ["\\v", "", "\\v", ""] } := rfl
  have hbody : ∀ marker ∈ dialectMarkers, ¬marker <+: c.searchBody := by decide
  refine ⟨?_, _, haccepted_twice, ?_⟩
  · exact (tours_iff_opensWithRound haccepted rfl (by decide) hbody).mpr
      ⟨_, [], .of_nodup (by decide)⟩
  · exact (tours_iff_opensWithRound haccepted_twice rfl (by decide) hbody).mpr
      ⟨["\\v", ""], ["\\v", ""], rfl, by decide, by decide, rfl, by decide⟩

/-- A dialect that is listed twice in a row is accepted, and every step from it leads to it again, so the one listed after it is never reached. -/
theorem cycleDialects?_stuck :
    let config : Value :=
      .map [(.text "dialects", .list [.text "\\v", .text "\\v", .text "\\m"])]
    let c := make "/" "%s" "\\vfoo" "bar" "g"
    ∃ settings, Settings.ofConfig config = .ok settings ∧
      c.dialect = detectDialect c.search ∧ c.dialect ∈ settings.dialects ∧
      (∀ marker ∈ dialectMarkers, ¬marker <+: c.searchBody) ∧
      (∀ n, c.cycleDialects? settings.dialects n = some c) ∧ ¬c.Tours settings.dialects := by
  intro config c
  have hstays : c.cycleDialect? ["\\v", "\\v", "\\m"] = some c := by decide
  have hstuck (n : Nat) : c.cycleDialects? ["\\v", "\\v", "\\m"] n = some c :=
    Function.iterate_fixed hstays n
  refine ⟨{ Settings.initial with dialects := ["\\v", "\\v", "\\m"] }, rfl, rfl, by decide,
    by decide, hstuck, fun h => ?_⟩
  obtain ⟨n, -, hn⟩ := h.visits "\\m" (by decide)
  have hsame : c = c.inDialect "\\m" := Option.some.inj ((hstuck n).symm.trans hn)
  exact absurd hsame (by decide)

end Command

end Substitute
