import Substitute.Proofs.Number.Canonical
import Substitute.Value.Basic

/-!
# Equality of keys

Keys are equal by what they are worth, across the kinds of numbers. Among values that can be keys this is an equivalence; not a number, which differs from itself, is left out.
-/

namespace Substitute

namespace Value

variable {a b c : Value} {n : Int}

private theorem same_moment_comm (m n : Moment) : m.same n = n.same m := by
  rw [Moment.same, Moment.same, BEq.comm, BEq.comm (a := m.instant)]

mutual

theorem sameKey_comm : (v w : Value) → v.sameKey w = w.sameKey v
  | tuple vs, w => by
    cases w with
    | tuple ws => exact sameKeys_comm vs ws
    | _ => rfl
  | null, w | bool _, w | int _, w | float _, w | text _, w | bytes _, w | date _, w
  | moment _, w | list _, w | set _, w | map _, w | again _, w => by
    cases w <;>
      first
        | rfl
        | exact BEq.comm
        | exact same_moment_comm _ _
        | exact Binary64.numEq_comm _ _

theorem sameKeys_comm : (vs ws : List Value) → sameKeys vs ws = sameKeys ws vs
  | [], ws => by cases ws <;> rfl
  | v :: vs, ws => by
    cases ws with
    | nil => rfl
    | cons w ws => rw [sameKeys, sameKeys, sameKey_comm v w, sameKeys_comm vs ws]

end

mutual

/-- Whether a value is a key that can be found again: it holds no collection but tuples, and no number that differs from itself. Numbers are held in canonical form. -/
def IsKey : Value → Prop
  | float x => x.IsCanonical ∧ x ≠ .nan
  | tuple items => AreKeys items
  | list _ | set _ | map _ | again _ => False
  | _ => True

def AreKeys : List Value → Prop
  | [] => True
  | v :: rest => IsKey v ∧ AreKeys rest

end

mutual

/-- Whether a value is a key that can be found again is decided part by part. -/
def decideIsKey : (v : Value) → Decidable v.IsKey
  | float _ => inferInstanceAs (Decidable (_ ∧ _))
  | tuple items => decideAreKeys items
  | list _ | set _ | map _ | again _ => .isFalse id
  | null | bool _ | int _ | text _ | bytes _ | date _ | moment _ => .isTrue trivial

def decideAreKeys : (items : List Value) → Decidable (AreKeys items)
  | [] => .isTrue trivial
  | v :: rest =>
    have := decideIsKey v
    have := decideAreKeys rest
    inferInstanceAs (Decidable (_ ∧ _))

end

instance : DecidablePred IsKey :=
  decideIsKey

theorem sameKey_iff_of_asInt? (hb : b.asInt? = some n) :
    a.sameKey b = true ↔ a.asInt? = some n ∨ ∃ x, a = float x ∧ x.eqInt n = true := by
  cases b with
  | bool | int =>
    cases hb
    cases a <;> simp [sameKey, asInt?]
  | _ => cases hb

private theorem sameKey_float_iff {y : Binary64} :
    a.sameKey (float y) = true ↔
      (∃ n, a.asInt? = some n ∧ y.eqInt n = true) ∨ ∃ x, a = float x ∧ x.numEq y = true := by
  cases a <;> simp [sameKey, asInt?]

theorem eq_of_sameKey (hab : a.sameKey b = true) (hnumber : b.asInt? = none)
    (hfloat : ∀ x, b ≠ float x) (hmoment : ∀ m, b ≠ moment m) (htuple : ∀ vs, b ≠ tuple vs) :
    a = b := by
  cases a <;> cases b <;> simp_all [sameKey, asInt?]

mutual

theorem sameKey_self : (v : Value) → v.IsKey → v.sameKey v = true
  | tuple items, h => sameKeys_self items h
  | float _, h => Binary64.numEq_self h.2
  | moment m, _ => by simp [sameKey, Moment.same]
  | list _, h | set _, h | map _, h | again _, h => h.elim
  | null, _ | bool _, _ | int _, _ | text _, _ | bytes _, _ | date _, _ => by
    simp [sameKey, asInt?]

theorem sameKeys_self : (items : List Value) → AreKeys items → sameKeys items items = true
  | [], _ => rfl
  | v :: rest, h => by rw [sameKeys, sameKey_self v h.1, sameKeys_self rest h.2]; rfl

end

/-- Equality of keys passes on over what is no tuple; a number is held in one form only. -/
theorem sameKey_trans_flat (ha : a.IsKey) (hc : c.IsKey) (hab : a.sameKey b = true)
    (hbc : b.sameKey c = true) (hflat : ∀ items, b ≠ tuple items) : a.sameKey c = true := by
  rw [sameKey_comm] at hbc
  cases hb : b.asInt? with
  | some n =>
    rw [sameKey_iff_of_asInt? hb] at hab hbc
    rcases hab with ha' | ⟨x, rfl, hx⟩
    · rw [sameKey_comm, sameKey_iff_of_asInt? ha']
      exact hbc
    · rcases hbc with hc' | ⟨y, rfl, hy⟩
      · exact (sameKey_iff_of_asInt? hc').mpr (.inr ⟨x, rfl, hx⟩)
      · exact Binary64.numEq_of_eqInt ha.1 hc.1 hx hy
  | none =>
    cases b with
    | float z =>
      rw [sameKey_float_iff] at hab hbc
      rcases hab with ⟨n, ha', hn⟩ | ⟨x, rfl, hx⟩
      · rw [sameKey_comm, sameKey_iff_of_asInt? ha']
        rcases hbc with ⟨m, hc', hm⟩ | ⟨y, rfl, hy⟩
        · exact .inl (hc'.trans (congrArg some (Binary64.eq_of_eqInt hm hn)))
        · exact .inr ⟨y, rfl, (Binary64.eqInt_of_numEq hy n).trans hn⟩
      · rcases hbc with ⟨m, hc', hm⟩ | ⟨y, rfl, hy⟩
        · exact (sameKey_iff_of_asInt? hc').mpr
            (.inr ⟨x, rfl, (Binary64.eqInt_of_numEq hx m).trans hm⟩)
        · rw [Binary64.numEq_comm] at hy
          exact Binary64.numEq_trans hx hy
    | moment m =>
      cases a <;> simp [sameKey, asInt?] at hab
      cases c <;> simp [sameKey, asInt?] at hbc
      simp_all [sameKey, Moment.same]
    | tuple items => exact absurd rfl (hflat items)
    | _ =>
      obtain rfl := eq_of_sameKey hab hb nofun nofun nofun
      rwa [sameKey_comm]

theorem exists_tuple_of_sameKey {items : List Value} (h : a.sameKey (tuple items) = true) :
    ∃ own, a = tuple own ∧ sameKeys own items = true := by
  cases a with
  | tuple own => exact ⟨own, rfl, h⟩
  | _ => exact absurd h Bool.false_ne_true

mutual

theorem sameKey_trans : {b a c : Value} → a.IsKey → c.IsKey → a.sameKey b = true →
    b.sameKey c = true → a.sameKey c = true
  | tuple middle, a, c, ha, hc, hab, hbc => by
    obtain ⟨left, rfl, hleft⟩ := exists_tuple_of_sameKey hab
    obtain ⟨right, rfl, hright⟩ := exists_tuple_of_sameKey ((sameKey_comm c _).trans hbc)
    rw [sameKeys_comm] at hright
    exact sameKeys_trans middle ha hc hleft hright
  | null, _, _, ha, hc, hab, hbc | bool _, _, _, ha, hc, hab, hbc | int _, _, _, ha, hc, hab, hbc
  | float _, _, _, ha, hc, hab, hbc | text _, _, _, ha, hc, hab, hbc
  | bytes _, _, _, ha, hc, hab, hbc | date _, _, _, ha, hc, hab, hbc
  | moment _, _, _, ha, hc, hab, hbc | list _, _, _, ha, hc, hab, hbc
  | set _, _, _, ha, hc, hab, hbc | map _, _, _, ha, hc, hab, hbc
  | again _, _, _, ha, hc, hab, hbc =>
    sameKey_trans_flat ha hc hab hbc nofun

theorem sameKeys_trans : (middle : List Value) → {left right : List Value} → AreKeys left →
    AreKeys right → sameKeys left middle = true → sameKeys middle right = true →
      sameKeys left right = true
  | [], left, right, _, _, hleft, hright => by
    cases left <;> cases right <;> simp_all [sameKeys]
  | _ :: middle, left, right, hkeys, hkeys', hleft, hright => by
    cases left with
    | nil => exact absurd hleft Bool.false_ne_true
    | cons v left =>
      cases right with
      | nil => exact absurd hright Bool.false_ne_true
      | cons w right =>
        obtain ⟨hv, hleft⟩ := Bool.and_eq_true_iff.mp hleft
        obtain ⟨hw, hright⟩ := Bool.and_eq_true_iff.mp hright
        exact Bool.and_eq_true_iff.mpr ⟨sameKey_trans hkeys.1 hkeys'.1 hv hw,
          sameKeys_trans middle hkeys.2 hkeys'.2 hleft hright⟩

end

end Value

end Substitute
