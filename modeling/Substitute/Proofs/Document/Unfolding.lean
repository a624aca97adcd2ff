import Mathlib.Data.Finset.Card
import Mathlib.Logic.Relation
import Substitute.Document.Basic

/-!
# Values of places

The value at a place depends only on what the parts below it look like, not on where they stand in the store or how many other parts there are. So two places of two stores have related values when what stands in them is related part by part and the collections below them correspond one to one.
-/

namespace Substitute.Store

variable {s t : Store} {R : Ref → Ref → Prop} {E : Value → Value → Prop}

/-- A reading of the places of a store that gives the values of its atoms. -/
def ReadsAtoms (s : Store) (f : Ref → Value) : Prop :=
  ∀ r v, s.part r = .atom v → f r = v

/-- Places of two stores with related parts. Collections in related places correspond one to one, so that one is met again exactly where the other is. -/
structure Matches (s t : Store) (R : Ref → Ref → Prop) (E : Value → Value → Prop) : Prop where
  collection {a b : Ref} (hab : R a b) : (s.part a).isCollection = (t.part b).isCollection
  one_one {a b a' b' : Ref} (hab : R a b) (hab' : R a' b')
    (hcollection : (s.part a).isCollection = true) (hcollection' : (s.part a').isCollection = true) :
    a = a' ↔ b = b'
  ringed {a b : Ref} (hab : R a b) : E (s.part a).ringed (t.part b).ringed
  filled {a b : Ref} {f g : Ref → Value} (hab : R a b) (hf : s.ReadsAtoms f) (hg : t.ReadsAtoms g)
    (hbelow : ∀ a' b', R a' b' → E (f a') (g b')) :
    E ((s.part a).filled f) ((t.part b).filled g)

theorem part_of_length_le {r : Ref} (h : s.length ≤ r) : s.part r = .atom .null := by
  rw [part, List.getD_eq_getElem?_getD, List.getElem?_eq_none h]
  rfl

theorem lt_of_isCollection {r : Ref} (h : (s.part r).isCollection = true) : r < s.length := by
  by_contra hout
  rw [part_of_length_le (Nat.le_of_not_lt hout)] at h
  exact Bool.false_ne_true h

theorem filled_eq_ringed {p : Part} (h : p.isCollection = false) (f : Ref → Value) :
    p.filled f = p.ringed := by
  cases p with
  | atom v => rfl
  | _ => exact absurd h.symm Bool.false_ne_true

/-! ### Fuel -/

/-- The places of a store that have not been met. -/
private def unmet (s : Store) (around : List Ref) : Finset Ref :=
  Finset.range s.length \ around.toFinset

/-- The fuel that the value at a place can take. -/
private def need (s : Store) (fresh : Nat) (around : List Ref) : Nat :=
  if fresh = 0 then (unmet s around).card + 1 else fresh + s.length + 1

private theorem one_le_need (s : Store) (fresh : Nat) (around : List Ref) :
    1 ≤ need s fresh around := by
  rw [need]
  split <;> omega

private theorem card_unmet_nil (s : Store) : (unmet s []).card = s.length := by
  simp [unmet]

private theorem card_unmet_cons {r : Ref} {around : List Ref} (hr : r < s.length)
    (hnew : r ∉ around) : (unmet s (r :: around)).card < (unmet s around).card := by
  refine Finset.card_lt_card (Finset.ssubset_iff_of_subset ?_ |>.mpr ⟨r, ?_, ?_⟩)
  · exact Finset.sdiff_subset_sdiff (Finset.Subset.refl _) (by simp)
  · simp [unmet, hr, hnew]
  · simp [unmet]

private theorem need_below {fresh fuel : Nat} {around : List Ref} {r : Ref} (hr : r < s.length)
    (hnew : r ∉ around) (hfuel : need s fresh around ≤ fuel + 1) :
    need s (fresh - 1) (if fresh = 0 then r :: around else []) ≤ fuel := by
  unfold need at hfuel ⊢
  by_cases hfresh : fresh = 0
  · have hless := card_unmet_cons hr hnew
    subst hfresh
    simp only [if_true] at hfuel ⊢
    omega
  · rw [if_neg hfresh] at hfuel ⊢
    split
    · rw [card_unmet_nil]
      omega
    · omega

private theorem readsAtoms_unfold {fuel fresh : Nat} {around : List Ref} (hfuel : 1 ≤ fuel) :
    s.ReadsAtoms (s.unfold fuel fresh around) := by
  intro r v hatom
  cases fuel with
  | zero => omega
  | succ fuel =>
    rw [unfold, hatom]
    split <;> rfl

/-! ### Related places -/

theorem Matches.unfold (h : Matches s t R E) {n m fresh : Nat} {around around' : List Ref}
    {a b : Ref} (hab : R a b) (hfresh : fresh ≠ 0 → around = [] ∧ around' = [])
    (haround : ∀ a b, R a b → (s.part a).isCollection = true → (a ∈ around ↔ b ∈ around'))
    (hn : need s fresh around ≤ n) (hm : need t fresh around' ≤ m) :
    E (s.unfold n fresh around a) (t.unfold m fresh around' b) := by
  induction n generalizing m fresh around around' a b with
  | zero => exact absurd (Nat.le_trans (one_le_need s fresh around) hn) (by omega)
  | succ n ih =>
    obtain ⟨m, rfl⟩ := Nat.exists_eq_succ_of_ne_zero
      (Nat.one_le_iff_ne_zero.mp (Nat.le_trans (one_le_need t fresh around') hm))
    rw [Store.unfold, Store.unfold]
    cases hcollection : (s.part a).isCollection with
    | false =>
      rw [filled_eq_ringed hcollection, filled_eq_ringed ((h.collection hab).symm.trans hcollection)]
      simp only [ite_self]
      exact h.ringed hab
    | true =>
      have hcollection' := (h.collection hab).symm.trans hcollection
      simp only [List.contains_iff_mem, haround a b hab hcollection]
      by_cases hmet : b ∈ around'
      · rw [if_pos hmet, if_pos hmet]
        exact h.ringed hab
      · rw [if_neg hmet, if_neg hmet]
        have hmet' : a ∉ around := (haround a b hab hcollection).not.mpr hmet
        have hn' := need_below (lt_of_isCollection hcollection) hmet' hn
        have hm' := need_below (lt_of_isCollection hcollection') hmet hm
        refine h.filled hab (readsAtoms_unfold (Nat.le_trans (one_le_need _ _ _) hn'))
          (readsAtoms_unfold (Nat.le_trans (one_le_need _ _ _) hm')) fun a' b' hab' => ?_
        refine ih hab' ?_ ?_ hn' hm'
        · intro hfresh'
          have hne : fresh ≠ 0 := by omega
          simp [hne]
        · intro c d hcd hc
          split
          · rw [List.mem_cons, List.mem_cons, haround c d hcd hc, h.one_one hcd hab hc hcollection]
          · simp

theorem Matches.value (h : Matches s t R E) {a b : Ref} (hab : R a b) (fresh : Nat) :
    E (s.value fresh a) (t.value fresh b) := by
  have hneed : ∀ u : Store, need u fresh [] ≤ fresh + u.length + 1 := by
    intro u
    rw [need]
    split
    · rw [card_unmet_nil]
      omega
    · exact Nat.le_refl _
  exact h.unfold hab (fun _ => ⟨rfl, rfl⟩) (by simp) (hneed s) (hneed t)

/-! ### Places below a place -/

/-- Whether a place is below another, over any number of parts, or the same. -/
def Reaches (s : Store) : Ref → Ref → Prop :=
  Relation.ReflTransGen fun r child => child ∈ (s.part r).refs

private theorem filled_mapRefs {p : Part} {φ : Ref → Ref} {f g : Ref → Value}
    (hsame : ∀ r ∈ p.refs, f r = g (φ r)) : p.filled f = (p.mapRefs φ).filled g := by
  cases p with
  | atom v => rfl
  | list items | tuple items | set items =>
    simp only [Part.filled, Part.mapRefs, List.map_map]
    exact congrArg _ (List.map_congr_left hsame)
  | map entries =>
    simp only [Part.filled, Part.mapRefs, List.map_map]
    refine congrArg _ (List.map_congr_left fun e he => ?_)
    have hmem : ∀ r ∈ [e.1, e.2], r ∈ (Part.map entries).refs := fun r hr =>
      List.mem_flatMap.mpr ⟨e, he, hr⟩
    rw [Function.comp_apply, hsame e.1 (hmem _ (by simp)), hsame e.2 (hmem _ (by simp))]

private theorem ringed_mapRefs (p : Part) (φ : Ref → Ref) : (p.mapRefs φ).ringed = p.ringed := by
  cases p <;> rfl

private theorem isCollection_mapRefs (p : Part) (φ : Ref → Ref) :
    (p.mapRefs φ).isCollection = p.isCollection := by
  cases p <;> rfl

/-- A place whose parts stand in another store, each in a place of its own, has the same value there. -/
theorem value_eq_of_embedding {φ : Ref → Ref} {r : Ref} (hinjective : Function.Injective φ)
    (hparts : ∀ x, s.Reaches r x → t.part (φ x) = (s.part x).mapRefs φ) (fresh : Nat) :
    s.value fresh r = t.value fresh (φ r) := by
  have hmatches : Matches s t (fun x y => s.Reaches r x ∧ y = φ x) Eq :=
    { collection := by
        rintro a _ ⟨ha, rfl⟩
        rw [hparts a ha, isCollection_mapRefs]
      one_one := by
        rintro a _ a' _ ⟨-, rfl⟩ ⟨-, rfl⟩ - -
        exact hinjective.eq_iff.symm
      ringed := by
        rintro a _ ⟨ha, rfl⟩
        rw [hparts a ha, ringed_mapRefs]
      filled := by
        rintro a _ f g ⟨ha, rfl⟩ - - hbelow
        rw [hparts a ha]
        exact filled_mapRefs fun x hx => hbelow x (φ x) ⟨ha.tail hx, rfl⟩ }
  exact hmatches.value ⟨.refl, rfl⟩ fresh

/-- A place has its value as long as nothing at it and below it changes. -/
theorem value_eq_of_parts {r : Ref} (hparts : ∀ x, s.Reaches r x → t.part x = s.part x)
    (fresh : Nat) : s.value fresh r = t.value fresh r := by
  refine value_eq_of_embedding (φ := id) Function.injective_id (fun x hx => ?_) fresh
  rw [id, hparts x hx]
  cases s.part x <;> simp [Part.mapRefs]

end Substitute.Store
