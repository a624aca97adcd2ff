import Substitute.Console.Print
import Substitute.Terminal.Plain
import Substitute.Proofs.Terminal.Markup

/-!
# Lawful screens

What the program relies on when it prints. Words in small letters name styles, escaped text is printed whatever it holds, and so is text without an opening bracket. A screen may refuse other markup.
-/

namespace Substitute

/-! ### Printing one thing after another -/

namespace Printed

@[simp] theorem failure_ofRendering_eq_none_iff {r : Rendering} :
    (ofRendering r).failure = none ↔ ∃ lines, r = .ok lines := by
  cases r with
  | ok lines => exact iff_of_true rfl ⟨lines, rfl⟩
  | error e => exact iff_of_false nofun nofun

@[simp] theorem failure_followedBy_eq_none_iff {p q : Printed} :
    (p.followedBy q).failure = none ↔ p.failure = none ∧ q.failure = none := by
  rw [followedBy]
  cases hp : p.failure with
  | none => simp
  | some error => simp [hp]

@[simp] theorem failure_all_eq_none_iff {ps : List Printed} :
    (all ps).failure = none ↔ ∀ p ∈ ps, p.failure = none := by
  induction ps with
  | nil => exact iff_of_true rfl nofun
  | cons p rest ih => rw [all, failure_followedBy_eq_none_iff, ih, List.forall_mem_cons]

theorem all_eq_of_failure {p : Printed} (rest : List Printed) (hfails : p.failure ≠ none) :
    all (p :: rest) = p := by
  rw [all, followedBy]
  cases hp : p.failure with
  | none => exact absurd hp hfails
  | some error => rfl

theorem lines_ofRendering_of_failure {r : Rendering} (hfails : (ofRendering r).failure ≠ none) :
    (ofRendering r).lines = [] := by
  cases r with
  | ok lines => exact absurd rfl hfails
  | error e => rfl

end Printed

/-- A cell that holds no opening bracket, or is no markup. -/
def Cell.IsBracketless : Cell → Prop
  | .literal _ => True
  | .markup t => '[' ∉ t

namespace Screen

open Markup (IsWord)

structure Lawful (screen : Screen) : Prop where
  /-- Escaped text is printed in every style. -/
  escaped {style : Text} (hstyle : IsWord style) (t : Text) :
    (screen.styled style (screen.escape t)).failure = none
  /-- Without an opening bracket there is no tag. -/
  bracketless {style t : Text} (hstyle : IsWord style) (hfree : '[' ∉ t) :
    (screen.styled style t).failure = none
  table (t : Table) (hcells : ∀ cells ∈ t.columns, ∀ cell ∈ cells, cell.IsBracketless) :
    ∃ lines, screen.table t = .ok lines

theorem isWord_red : IsWord "red" := ⟨by decide, List.all_eq_true.mp (by decide)⟩

theorem isWord_dim : IsWord "dim" := ⟨by decide, List.all_eq_true.mp (by decide)⟩

/-! ### The screen without colours -/

theorem plain_print_failure_eq_none_iff (t : Text) :
    (plain.print t).failure = none ↔ Markup.Balanced t := by
  rw [← Markup.exists_plain_iff, print, Printed.failure_ofRendering_eq_none_iff]
  exact exists_bind_pure_iff

private theorem exists_shown_of_isBracketless {cell : Cell} (hcell : cell.IsBracketless) :
    ∃ t, cell.shown = .ok t := by
  cases cell with
  | literal t => exact ⟨_, rfl⟩
  | markup t => exact (Markup.exists_plain_iff t).mpr (Markup.balanced_of_not_mem hcell)

theorem plain_lawful : plain.Lawful where
  escaped hstyle t :=
    (plain_print_failure_eq_none_iff _).mpr (Markup.balanced_escape hstyle.isStyle t)
  bracketless hstyle hfree :=
    (plain_print_failure_eq_none_iff _).mpr (Markup.balanced_styled_of_not_mem hstyle.isStyle hfree)
  table t hcells := by
    refine exists_bind_pure_iff.mpr (exists_bind_pure_iff.mpr ?_)
    rw [exists_mapM_iff]
    intro cells hmem
    rw [exists_mapM_iff]
    exact fun cell hcell => exists_shown_of_isBracketless (hcells cells hmem cell hcell)

end Screen

end Substitute
