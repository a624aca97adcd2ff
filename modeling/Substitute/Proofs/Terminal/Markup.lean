import Mathlib.Data.List.TakeWhile
import Substitute.Terminal.Markup
import Substitute.Proofs.Steps
import Substitute.Proofs.Text.Words

/-!
# When markup can be printed

Only tags decide whether markup can be printed, and they are found by one walk through the text. A tag after an odd number of backslashes is literal; the others have to close what is open. Escaping leaves none but literal tags, and this also where a closing tag follows the escaped text.
-/

namespace Substitute

namespace Markup

/-- The tags of a text that open or close styles, with the given number of backslashes before the text. -/
def tagsFrom : Nat → Text → List Text
  | _, [] => []
  | slashes, c :: rest =>
    if c = '\\' then tagsFrom (slashes + 1) rest
    else match if c = '[' then tagBody? rest else none with
      | some body => if slashes % 2 = 1 then tagsFrom 0 rest else body :: tagsFrom 0 rest
      | none => tagsFrom 0 rest

def tags (markup : Text) : List Text :=
  tagsFrom 0 markup

/-- Tags of which each closing one closes a style that is open. -/
inductive Closes : List Text → List Text → Prop
  | done (opened : List Text) : Closes opened []
  | opening {opened rest : List Text} {body : Text} (hopens : closes? body = none)
      (hrest : Closes (styleName (body.takeWhile (· != '=')) :: opened) rest) :
      Closes opened (body :: rest)
  | innermost {style : Text} {opened rest : List Text} {body : Text}
      (hcloses : closes? body = some []) (hrest : Closes opened rest) :
      Closes (style :: opened) (body :: rest)
  | named {opened rest : List Text} {body name : Text} (hcloses : closes? body = some name)
      (hname : name ≠ []) (hopen : styleName name ∈ opened)
      (hrest : Closes (opened.erase (styleName name)) rest) : Closes opened (body :: rest)

/-- Markup of which each closing tag closes a style that is open. -/
def Balanced (markup : Text) : Prop :=
  Closes [] (tags markup)

/-! ### Reading tags -/

private theorem untilBracket?_eq_some {t body : Text} (hbody : untilBracket? t = some body) :
    ∃ rest, t = body ++ ']' :: rest ∧ '[' ∉ body := by
  induction t generalizing body with
  | nil => exact nomatch hbody
  | cons c t ih =>
    rw [untilBracket?] at hbody
    split at hbody
    · rename_i hclosing
      cases hbody
      exact ⟨t, by rw [hclosing]; rfl, List.not_mem_nil⟩
    · split at hbody
      · exact nomatch hbody
      · rename_i hopening
        obtain ⟨more, hmore, rfl⟩ := Option.map_eq_some_iff.mp hbody
        obtain ⟨rest, rfl, hfree⟩ := ih hmore
        exact ⟨rest, rfl, fun hmem => (List.mem_cons.mp hmem).elim (fun h => hopening h.symm) hfree⟩

private theorem tagBody?_eq_some {t body : Text} (hbody : tagBody? t = some body) :
    ∃ rest, t = body ++ ']' :: rest ∧ '[' ∉ body := by
  cases t with
  | nil => exact nomatch hbody
  | cons c t =>
    rw [tagBody?] at hbody
    split at hbody
    · rename_i hstart
      obtain ⟨more, hmore, rfl⟩ := Option.map_eq_some_iff.mp hbody
      obtain ⟨rest, rfl, hfree⟩ := untilBracket?_eq_some hmore
      refine ⟨rest, rfl, ?_⟩
      rw [List.mem_cons]
      rintro (rfl | hmem)
      · exact absurd hstart (by decide)
      · exact hfree hmem
    · exact nomatch hbody

/-- Where a tag is read, the text goes on with it and a closing bracket. -/
theorem exists_after_tag {c : Char} {t body : Text}
    (htag : (if c = '[' then tagBody? t else none) = some body) :
    c = '[' ∧ '[' ∉ body ∧ ∃ rest, t = body ++ ']' :: rest ∧ t.drop (body.length + 1) = rest := by
  split at htag
  · rename_i hc
    obtain ⟨rest, rfl, hfree⟩ := tagBody?_eq_some htag
    refine ⟨hc, hfree, rest, rfl, ?_⟩
    rw [List.drop_append, List.drop_of_length_le (Nat.le_succ _), Nat.add_sub_cancel_left]
    rfl
  · exact nomatch htag

theorem tagsFrom_body (slashes : Nat) (body rest : Text) (hfree : '[' ∉ body) :
    tagsFrom slashes (body ++ ']' :: rest) = tagsFrom 0 rest := by
  induction body generalizing slashes with
  | nil => simp [tagsFrom]
  | cons c body ih =>
    obtain ⟨hc, hbody⟩ := not_or.mp (fun h => hfree (List.mem_cons.mpr h))
    have hopening : c ≠ '[' := fun h => hc h.symm
    rw [List.cons_append, tagsFrom, if_neg hopening]
    simp only [ih _ hbody, ite_self]

theorem tagsFrom_slashRun (slashes n : Nat) (rest : Text) :
    tagsFrom slashes (slashRun n ++ rest) = tagsFrom (slashes + n) rest := by
  induction n generalizing slashes with
  | zero => rfl
  | succ n ih =>
    have hrun : slashRun (n + 1) ++ rest = '\\' :: (slashRun n ++ rest) := rfl
    rw [hrun, tagsFrom, if_pos rfl, ih]
    congr 1
    omega

/-- The tags of pieces that open or close styles. -/
def liveTags : List Piece → List Text
  | [] => []
  | .literal _ :: rest => liveTags rest
  | .tag _ slashes body :: rest =>
    if slashes % 2 = 1 then liveTags rest else body :: liveTags rest

theorem liveTags_literalPiece_append (reversed : Text) (ps : List Piece) :
    liveTags (literalPiece reversed ++ ps) = liveTags ps := by
  rw [literalPiece]
  split <;> rfl

/-- The pieces of a text hold the tags that a walk through all of it finds. -/
theorem liveTags_piecesFrom (position skip slashes : Nat) (reversed t : Text) :
    liveTags (piecesFrom position skip slashes reversed t) = tagsFrom slashes (t.drop skip) := by
  induction t generalizing position skip slashes reversed with
  | nil =>
    rw [piecesFrom, ← List.append_nil (literalPiece _), liveTags_literalPiece_append, List.drop_nil]
    rfl
  | cons c rest ih =>
    cases skip with
    | succ skip => rw [piecesFrom, ih, List.drop_succ_cons]
    | zero =>
      rw [piecesFrom, List.drop_zero, tagsFrom]
      by_cases hslash : c = '\\'
      · rw [if_pos hslash, if_pos hslash, ih, List.drop_zero]
      · rw [if_neg hslash, if_neg hslash]
        cases htag : if c = '[' then tagBody? rest else none with
        | none => simp only [ih, List.drop_zero]
        | some body =>
          obtain ⟨-, hfree, after, hafter, hdrop⟩ := exists_after_tag htag
          have hrest := ih (position + 1) (body.length + 1) 0 []
          rw [hdrop] at hrest
          simp only [liveTags_literalPiece_append, liveTags, hrest]
          rw [hafter, tagsFrom_body 0 body after hfree]

private theorem tags_eq (markup : Text) : tags markup = liveTags (pieces markup) :=
  (liveTags_piecesFrom 0 0 0 [] markup).symm

/-! ### Printing -/

private theorem exists_afterTag_iff (opened rest : List Text) (position : Nat) (body : Text) :
    (∃ next, afterTag opened position body = .ok next ∧ Closes next rest) ↔
      Closes opened (body :: rest) := by
  unfold afterTag
  constructor
  · rintro ⟨next, hnext, hrest⟩
    split at hnext
    · rename_i hopens
      cases hnext
      exact .opening hopens hrest
    · rename_i hcloses
      split at hnext
      · exact nomatch hnext
      · cases hnext
        exact .innermost hcloses hrest
    · rename_i name hname hcloses
      split at hnext
      · rename_i hopen
        cases hnext
        exact .named hcloses hname (List.contains_iff_mem.mp hopen) hrest
      · exact nomatch hnext
  · rintro (_ | ⟨hopens, hrest⟩ | ⟨hcloses, hrest⟩ | ⟨hcloses, hname, hopen, hrest⟩)
    · simp only [hopens]
      exact ⟨_, rfl, hrest⟩
    · simp only [hcloses]
      exact ⟨_, rfl, hrest⟩
    · obtain ⟨c, more, rfl⟩ := List.exists_cons_of_ne_nil hname
      simp only [hcloses, List.contains_iff_mem.mpr hopen, if_true]
      exact ⟨_, rfl, hrest⟩

private theorem exists_plainFrom_iff (opened : List Text) (ps : List Piece) :
    (∃ t, plainFrom opened ps = .ok t) ↔ Closes opened (liveTags ps) := by
  induction ps generalizing opened with
  | nil => exact iff_of_true ⟨[], rfl⟩ (.done opened)
  | cons p rest ih =>
    cases p with
    | literal t =>
      rw [plainFrom, exists_bind_pure_iff, ih]
      rfl
    | tag position slashes body =>
      rw [plainFrom]
      rw [liveTags]
      by_cases hodd : slashes % 2 = 1
      · rw [if_pos hodd, if_pos hodd, exists_bind_pure_iff, ih]
      · rw [if_neg hodd, if_neg hodd, ← exists_afterTag_iff opened (liveTags rest) position body]
        simp only [bind_eq_ok_iff, pure_eq_ok_iff, ← ih]
        constructor
        · rintro ⟨_, next, hnext, t, ht, -⟩
          exact ⟨next, hnext, t, ht⟩
        · rintro ⟨next, hnext, t, ht⟩
          exact ⟨_, next, hnext, t, ht, rfl⟩

theorem exists_plain_iff (markup : Text) : (∃ t, plain markup = .ok t) ↔ Balanced markup := by
  rw [Balanced, tags_eq]
  exact exists_plainFrom_iff [] (pieces markup)

/-! ### Escaping -/

/-- The escaped form of a text that follows the given number of backslashes. -/
def escapedFrom : Nat → Text → Text
  | slashes, [] => slashRun slashes
  | slashes, c :: rest =>
    if c = '\\' then escapedFrom (slashes + 1) rest
    else match if c = '[' then tagBody? rest else none with
      | some _ => slashRun (2 * slashes + 1) ++ c :: escapedFrom 0 rest
      | none => slashRun slashes ++ c :: escapedFrom 0 rest

private theorem escapedFrom_body (slashes : Nat) (body rest : Text) (hfree : '[' ∉ body) :
    escapedFrom slashes (body ++ ']' :: rest) =
      slashRun slashes ++ body ++ ']' :: escapedFrom 0 rest := by
  induction body generalizing slashes with
  | nil => simp [escapedFrom]
  | cons c body ih =>
    obtain ⟨hc, hbody⟩ := not_or.mp (fun h => hfree (List.mem_cons.mpr h))
    have hopening : c ≠ '[' := fun h => hc h.symm
    rw [List.cons_append, escapedFrom]
    by_cases hslash : c = '\\'
    · have hrun : slashRun (slashes + 1) = slashRun slashes ++ ['\\'] := List.replicate_succ'
      rw [if_pos hslash, ih _ hbody, hrun, hslash]
      simp
    · rw [if_neg hslash, if_neg hopening, ih _ hbody]
      simp [slashRun]

@[simp] theorem reverse_slashRun (n : Nat) : (slashRun n).reverse = slashRun n :=
  List.reverse_replicate

@[simp] theorem flatMap_literalPiece (reversed : Text) :
    (literalPiece reversed).flatMap escapedPiece = reversed.reverse := by
  cases reversed with
  | nil => rfl
  | cons c rest => simp [literalPiece, escapedPiece]

private theorem flatMap_piecesFrom (position skip slashes : Nat) (reversed t : Text) :
    (piecesFrom position skip slashes reversed t).flatMap escapedPiece =
      reversed.reverse ++ escapedFrom slashes (t.drop skip) := by
  induction t generalizing position skip slashes reversed with
  | nil =>
    rw [piecesFrom, flatMap_literalPiece, List.drop_nil, List.reverse_append, reverse_slashRun]
    rfl
  | cons c rest ih =>
    cases skip with
    | succ skip => rw [piecesFrom, ih, List.drop_succ_cons]
    | zero =>
      rw [piecesFrom, List.drop_zero, escapedFrom]
      by_cases hslash : c = '\\'
      · rw [if_pos hslash, if_pos hslash, ih, List.drop_zero]
      · rw [if_neg hslash, if_neg hslash]
        cases htag : if c = '[' then tagBody? rest else none with
        | none =>
          simp only [ih, List.drop_zero, List.reverse_cons, List.reverse_append, reverse_slashRun]
          simp
        | some body =>
          obtain ⟨rfl, hfree, after, hafter, hdrop⟩ := exists_after_tag htag
          have hrest := ih (position + 1) (body.length + 1) 0 []
          rw [hdrop] at hrest
          simp only [List.flatMap_append, List.flatMap_cons, flatMap_literalPiece, escapedPiece,
            hrest]
          rw [hafter, escapedFrom_body 0 body after hfree]
          simp [slashRun]

theorem exists_escape (t : Text) : ∃ n, escape t = escapedFrom 0 t ++ slashRun n := by
  have hpieces : (pieces t).flatMap escapedPiece = escapedFrom 0 t :=
    flatMap_piecesFrom 0 0 0 [] t
  simp only [escape, hpieces]
  split
  · exact ⟨1, rfl⟩
  · exact ⟨0, (List.append_nil _).symm⟩

theorem untilBracket?_slashRun (n : Nat) {t : Text} (hnone : untilBracket? t = none) :
    untilBracket? (slashRun n ++ t) = none := by
  induction n with
  | zero => exact hnone
  | succ n ih =>
    show (untilBracket? (slashRun n ++ t)).map _ = none
    rw [ih]
    rfl

private theorem untilBracket?_escapedFrom {t : Text} (hnone : untilBracket? t = none) (slashes n : Nat)
    (rest : Text) :
    untilBracket? (escapedFrom slashes t ++ (slashRun n ++ '[' :: rest)) = none := by
  have hopening : ∀ more : Text, untilBracket? ('[' :: more) = none := fun _ => rfl
  induction t generalizing slashes with
  | nil =>
    exact untilBracket?_slashRun slashes (untilBracket?_slashRun n (hopening rest))
  | cons c t ih =>
    rw [untilBracket?] at hnone
    split at hnone
    · exact nomatch hnone
    · rename_i hclosing
      rw [escapedFrom]
      by_cases hslash : c = '\\'
      · subst hslash
        exact ih (Option.map_eq_none_iff.mp hnone) (slashes + 1)
      · rw [if_neg hslash]
        by_cases hc : c = '['
        · subst hc
          split <;> rw [List.append_assoc] <;> exact untilBracket?_slashRun _ (hopening _)
        · rw [if_neg hc] at hnone ⊢
          rw [List.append_assoc]
          refine untilBracket?_slashRun slashes ?_
          rw [List.cons_append, untilBracket?, if_neg hclosing, if_neg hc,
            ih (Option.map_eq_none_iff.mp hnone) 0]
          rfl

private theorem tagBody?_cons {c : Char} (t : Text) (hstart : isTagStart c = false) :
    tagBody? (c :: t) = none := by
  rw [tagBody?, hstart]
  rfl

private theorem exists_escapedFrom_succ (slashes : Nat) (t : Text) :
    ∃ more, escapedFrom (slashes + 1) t = '\\' :: more := by
  induction t generalizing slashes with
  | nil => exact ⟨slashRun slashes, rfl⟩
  | cons c t ih =>
    rw [escapedFrom]
    split
    · exact ih (slashes + 1)
    · split
      · exact ⟨_, rfl⟩
      · exact ⟨_, rfl⟩

/-- A bracket that opens no tag opens none in the escaped text either, whatever follows it. -/
theorem tagBody?_escapedFrom {t : Text} (hnone : tagBody? t = none) (n : Nat) (rest : Text) :
    tagBody? (escapedFrom 0 t ++ (slashRun n ++ '[' :: rest)) = none := by
  cases t with
  | nil =>
    cases n with
    | zero => rfl
    | succ n => rfl
  | cons c t =>
    cases hstart : isTagStart c with
    | true =>
      have hslash : c ≠ '\\' := by
        rintro rfl
        exact absurd hstart (by decide)
      have hopening : c ≠ '[' := by
        rintro rfl
        exact absurd hstart (by decide)
      rw [tagBody?, if_pos hstart] at hnone
      rw [escapedFrom, if_neg hslash, if_neg hopening]
      show tagBody? (c :: (escapedFrom 0 t ++ _)) = none
      rw [tagBody?, if_pos hstart, untilBracket?_escapedFrom (Option.map_eq_none_iff.mp hnone)]
      rfl
    | false =>
      rw [escapedFrom]
      split
      · obtain ⟨more, hmore⟩ := exists_escapedFrom_succ 0 t
        rw [hmore]
        rfl
      · split
        · rfl
        · exact tagBody?_cons _ hstart

/-- All that escaping leaves of the tags of a text is whether the next tag is literal. -/
theorem exists_tagsFrom_escapedFrom (slashes n : Nat) (t rest : Text) :
    ∃ before, tagsFrom 0 (escapedFrom slashes t ++ (slashRun n ++ '[' :: rest)) =
      tagsFrom before ('[' :: rest) := by
  induction t generalizing slashes with
  | nil =>
    refine ⟨0 + slashes + n, ?_⟩
    rw [escapedFrom, tagsFrom_slashRun, tagsFrom_slashRun]
  | cons c t ih =>
    obtain ⟨before, hbefore⟩ := ih 0
    rw [escapedFrom]
    by_cases hslash : c = '\\'
    · rw [if_pos hslash]
      exact ih (slashes + 1)
    · refine ⟨before, ?_⟩
      rw [if_neg hslash]
      cases htag : if c = '[' then tagBody? t else none with
      | some body =>
        have hodd : (0 + (2 * slashes + 1)) % 2 = 1 := by omega
        show tagsFrom 0 (slashRun (2 * slashes + 1) ++ c :: escapedFrom 0 t ++ _) = _
        rw [List.append_assoc, tagsFrom_slashRun, List.cons_append, tagsFrom, if_neg hslash]
        simp only [hodd, if_true, hbefore]
        split <;> rfl
      | none =>
        have hfree : (if c = '[' then
            tagBody? (escapedFrom 0 t ++ (slashRun n ++ '[' :: rest)) else none) = none := by
          split at htag
          · rename_i hc
            rw [if_pos hc, tagBody?_escapedFrom htag]
          · rename_i hc
            rw [if_neg hc]
        show tagsFrom 0 (slashRun slashes ++ c :: escapedFrom 0 t ++ _) = _
        rw [List.append_assoc, tagsFrom_slashRun, List.cons_append, tagsFrom, if_neg hslash, hfree]
        exact hbefore

/-- A style that a tag of its name opens and the tag with a slash closes. -/
structure IsStyle (style : Text) : Prop where
  start : style.head?.any isTagStart = true
  free : '[' ∉ style ∧ ']' ∉ style
  opens : closes? style = none
  closes : ∃ name, closes? ('/' :: style) = some name ∧ name ≠ [] ∧
    styleName name = styleName (style.takeWhile (· != '='))

structure IsWord (t : Text) : Prop where
  nonempty : t ≠ []
  lower : ∀ c ∈ t, c.isLower = true

private theorem not_isBlank_of_isLower {c : Char} (hlower : c.isLower = true) :
    isBlank c = false := by
  have hrange : 0x61 ≤ c.toNat ∧ c.toNat ≤ 0x7a := by
    obtain ⟨hfrom, hto⟩ := (Bool.and_eq_true _ _).mp hlower
    exact ⟨UInt32.le_iff_toNat_le.mp (of_decide_eq_true hfrom),
      UInt32.le_iff_toNat_le.mp (of_decide_eq_true hto)⟩
  have hascii : c.toNat < 0x80 := by omega
  have hlow : ¬ c.toNat ≤ 0xD := by omega
  have hhigh : ¬ c.toNat ≤ 0x20 := by omega
  simp [isBlank, hascii, hlow, hhigh]

private theorem ne_of_isLower {c d : Char} (hlower : c.isLower = true) (hd : d.isLower = false) :
    c ≠ d := by
  rintro rfl
  exact absurd (hlower.symm.trans hd) (by decide)

theorem IsWord.isStyle {style : Text} (hword : IsWord style) : IsStyle style := by
  obtain ⟨hne, hlower⟩ := hword
  have hfree : ∀ c : Char, c.isLower = false → c ∉ style := fun c hc hmem =>
    ne_of_isLower (hlower c hmem) hc rfl
  have hkeeps : style.takeWhile (· != '=') = style :=
    List.takeWhile_eq_self_iff.mpr fun c hc =>
      bne_iff_ne.mpr (ne_of_isLower (hlower c hc) (by decide))
  have hname : Text.trim (style.takeWhile (· != '=')) = style := by
    rw [hkeeps]
    exact Text.trim_of_solid fun c hc => not_isBlank_of_isLower (hlower c hc)
  cases style with
  | nil => exact absurd rfl hne
  | cons c body =>
    have hc := hlower c List.mem_cons_self
    have hslash : c ≠ '/' := ne_of_isLower hc (by decide)
    refine ⟨by simp [isTagStart, hc], ⟨hfree '[' (by decide), hfree ']' (by decide)⟩, ?_,
      c :: body, ?_, List.cons_ne_nil c body, ?_⟩
    · rw [closes?]
      intro rest hrest
      exact hslash (List.cons.inj hrest).1
    · exact congrArg some hname
    · rw [hkeeps]

private theorem untilBracket?_append {body : Text} (rest : Text) (hfree : '[' ∉ body ∧ ']' ∉ body) :
    untilBracket? (body ++ ']' :: rest) = some body := by
  induction body with
  | nil => rfl
  | cons c body ih =>
    obtain ⟨hopening, hclosing⟩ := hfree
    rw [List.mem_cons, not_or] at hopening hclosing
    rw [List.cons_append, untilBracket?, if_neg (Ne.symm hclosing.1), if_neg (Ne.symm hopening.1),
      ih ⟨hopening.2, hclosing.2⟩]
    rfl

private theorem tagBody?_append {c : Char} {body : Text} (rest : Text) (hstart : isTagStart c = true)
    (hfree : '[' ∉ body ∧ ']' ∉ body) :
    tagBody? (c :: body ++ ']' :: rest) = some (c :: body) := by
  rw [List.cons_append, tagBody?, if_pos hstart, untilBracket?_append rest hfree]
  rfl

/-- A tag counts, and closes its bracket, unless the backslashes before it make it literal. -/
theorem tagsFrom_tag (slashes : Nat) {c : Char} {body : Text} (rest : Text)
    (hstart : isTagStart c = true) (hfree : '[' ∉ body ∧ ']' ∉ body) :
    tagsFrom slashes ('[' :: (c :: body ++ ']' :: rest)) =
      if slashes % 2 = 1 then tagsFrom 0 rest else (c :: body) :: tagsFrom 0 rest := by
  have hc : c ≠ '[' := by
    rintro rfl
    exact absurd hstart (by decide)
  have hbody : '[' ∉ c :: body := fun hmem => (List.mem_cons.mp hmem).elim (hc ·.symm) hfree.1
  rw [tagsFrom, if_neg (by decide), if_pos rfl, tagBody?_append rest hstart hfree]
  simp only [tagsFrom_body 0 (c :: body) rest hbody]

private theorem balanced_of_tagsFrom {style t : Text} (hstyle : IsStyle style)
    (htagless : ∀ rest, ∃ before, tagsFrom 0 (t ++ '[' :: rest) = tagsFrom before ('[' :: rest)) :
    Balanced ('[' :: style ++ ']' :: t ++ ['[', '/'] ++ style ++ [']']) := by
  obtain ⟨hstart, hfree, hopens, name, hcloses, hname, hsame⟩ := hstyle
  cases style with
  | nil => exact absurd hstart Bool.false_ne_true
  | cons c body =>
    have hbody : '[' ∉ body ∧ ']' ∉ body :=
      ⟨fun h => hfree.1 (List.mem_cons_of_mem c h), fun h => hfree.2 (List.mem_cons_of_mem c h)⟩
    obtain ⟨before, hbefore⟩ := htagless ('/' :: c :: body ++ [']'])
    have htags : tags ('[' :: (c :: body) ++ ']' :: t ++ ['[', '/'] ++ (c :: body) ++ [']']) =
        (c :: body) :: if before % 2 = 1 then [] else ['/' :: c :: body] := by
      have hshape : '[' :: (c :: body) ++ ']' :: t ++ ['[', '/'] ++ (c :: body) ++ [']'] =
          '[' :: (c :: body ++ ']' :: (t ++ '[' :: ('/' :: c :: body ++ [']']))) := by
        simp
      rw [hshape, tags, tagsFrom_tag 0 _ hstart hbody, if_neg (by decide)]
      refine congrArg _ (hbefore.trans ?_)
      exact tagsFrom_tag before [] (by decide) hfree
    rw [Balanced, htags]
    refine .opening hopens ?_
    split
    · exact .done _
    · refine .named hcloses hname ?_ (.done _)
      rw [hsame]
      exact List.mem_cons_self

theorem balanced_escape {style : Text} (hstyle : IsStyle style) (t : Text) :
    Balanced ('[' :: style ++ ']' :: escape t ++ ['[', '/'] ++ style ++ [']']) := by
  refine balanced_of_tagsFrom hstyle fun rest => ?_
  obtain ⟨n, hescape⟩ := exists_escape t
  rw [hescape, List.append_assoc]
  exact exists_tagsFrom_escapedFrom 0 n t rest

/-! ### Texts without brackets -/

private theorem exists_tagsFrom_of_not_mem {t : Text} (hfree : '[' ∉ t) (slashes : Nat)
    (rest : Text) : ∃ before, tagsFrom slashes (t ++ rest) = tagsFrom before rest := by
  induction t generalizing slashes with
  | nil => exact ⟨slashes, rfl⟩
  | cons c t ih =>
    obtain ⟨hc, ht⟩ := not_or.mp fun h => hfree (List.mem_cons.mpr h)
    rw [List.cons_append, tagsFrom, if_neg (Ne.symm hc)]
    split
    · exact ih ht (slashes + 1)
    · exact ih ht 0

theorem balanced_of_not_mem {t : Text} (hfree : '[' ∉ t) : Balanced t := by
  obtain ⟨before, hbefore⟩ := exists_tagsFrom_of_not_mem hfree 0 []
  rw [List.append_nil] at hbefore
  rw [Balanced, tags, hbefore]
  exact .done []

theorem balanced_styled_of_not_mem {style t : Text} (hstyle : IsStyle style) (hfree : '[' ∉ t) :
    Balanced ('[' :: style ++ ']' :: t ++ ['[', '/'] ++ style ++ [']']) :=
  balanced_of_tagsFrom hstyle fun rest => exists_tagsFrom_of_not_mem hfree 0 ('[' :: rest)

end Markup

end Substitute
