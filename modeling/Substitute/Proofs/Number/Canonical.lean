import Substitute.Number.Binary64

/-!
# One form for every number

A number is held in canonical form when its mantissa has all the bits that it can have: 53 of them, or fewer at the least exponent. In this form numbers of equal value are equal part by part, so that equality with an integer in between tells nothing else than equality of their fields.
-/

namespace Substitute

namespace Binary64

/-- Whether a finite number has as many bits in its mantissa as it can have. -/
def IsCanonical : Binary64 → Prop
  | finite _ mantissa exponent =>
    mantissa < twoTo 53 ∧ minExponent ≤ exponent ∧
      (exponent = minExponent ∨ twoTo 52 ≤ mantissa)
  | _ => True

instance : DecidablePred IsCanonical
  | finite _ _ _ => inferInstanceAs (Decidable (_ ∧ _ ∧ _))
  | infinite _ => .isTrue trivial
  | nan => .isTrue trivial

theorem twoTo_add (m n : Nat) : twoTo (m + n) = twoTo m * twoTo n :=
  Nat.pow_add 2 m n

theorem twoTo_pos (n : Nat) : 0 < twoTo n :=
  Nat.two_pow_pos n

private theorem ratio_scaled (mantissa : Nat) {exponent : Int} (hleast : minExponent ≤ exponent) :
    (ratio mantissa exponent).1 * twoTo 1074 =
      mantissa * twoTo (exponent - minExponent).toNat * (ratio mantissa exponent).2 := by
  rw [minExponent] at *
  rw [ratio]
  split
  · have hsum : (1074 : Nat) = (exponent - -1074).toNat + exponent.natAbs := by omega
    rw [hsum, twoTo_add, Nat.mul_assoc]
  · have hsum : (exponent - -1074).toNat = exponent.natAbs + 1074 := by omega
    rw [hsum, twoTo_add, Nat.mul_one, Nat.mul_assoc]

theorem ratio_den_pos (mantissa : Nat) (exponent : Int) : 0 < (ratio mantissa exponent).2 := by
  rw [ratio]
  split
  · exact twoTo_pos _
  · exact Nat.one_pos

theorem eq_of_scaled_le {m n j k : Nat} (hm : m < twoTo 53) (hn : k = 0 ∨ twoTo 52 ≤ n)
    (hle : j ≤ k) (heq : m * twoTo j = n * twoTo k) : m = n ∧ j = k := by
  obtain ⟨d, rfl⟩ := Nat.exists_eq_add_of_le hle
  have hcancel : m = n * twoTo d := by
    refine Nat.eq_of_mul_eq_mul_right (twoTo_pos j) ?_
    rw [heq, twoTo_add, Nat.mul_assoc, Nat.mul_comm (twoTo j)]
  cases d with
  | zero => exact ⟨by simpa [twoTo] using hcancel, rfl⟩
  | succ d =>
    have hbits : twoTo 52 ≤ n := hn.resolve_left (by omega)
    have htwo : 2 ≤ twoTo (d + 1) := by
      rw [Nat.add_comm, twoTo_add]
      exact Nat.le_mul_of_pos_right 2 (twoTo_pos d)
    have hmany : twoTo 52 * 2 ≤ m := hcancel ▸ Nat.mul_le_mul hbits htwo
    exact absurd hm (Nat.not_lt.mpr hmany)

private theorem eq_of_scaled {m n j k : Nat} (hm : m < twoTo 53) (hn : n < twoTo 53)
    (hj : j = 0 ∨ twoTo 52 ≤ m) (hk : k = 0 ∨ twoTo 52 ≤ n)
    (heq : m * twoTo j = n * twoTo k) : m = n ∧ j = k := by
  rcases Nat.le_total j k with hle | hle
  · exact eq_of_scaled_le hm hk hle heq
  · obtain ⟨hmantissa, hexponent⟩ := eq_of_scaled_le hn hj hle heq.symm
    exact ⟨hmantissa.symm, hexponent.symm⟩

theorem finite_eqInt_iff {negative : Bool} {mantissa : Nat} {exponent n : Int}
    (hleast : minExponent ≤ exponent) :
    (finite negative mantissa exponent).eqInt n = true ↔
      mantissa * twoTo (exponent - minExponent).toNat = n.natAbs * twoTo 1074 ∧
        (n = 0 ∨ negative = decide (n < 0)) := by
  have hscaled := ratio_scaled mantissa hleast
  have hden := ratio_den_pos mantissa exponent
  simp only [eqInt, Bool.and_eq_true, Bool.or_eq_true, beq_iff_eq]
  refine and_congr_left fun _ => ?_
  constructor
  · intro hnum
    refine Nat.eq_of_mul_eq_mul_right hden ?_
    rw [← hscaled, hnum, Nat.mul_right_comm]
  · intro hmagnitude
    refine Nat.eq_of_mul_eq_mul_right (twoTo_pos 1074) ?_
    rw [hscaled, hmagnitude, Nat.mul_right_comm]

theorem numEq_of_eqInt {x y : Binary64} {n : Int} (hx : x.IsCanonical) (hy : y.IsCanonical)
    (hxn : x.eqInt n = true) (hyn : y.eqInt n = true) : x.numEq y = true := by
  cases x with
  | nan => cases hxn
  | infinite => cases hxn
  | finite s m e =>
    cases y with
    | nan => cases hyn
    | infinite => cases hyn
    | finite t k f =>
      obtain ⟨hm, he, hmbits⟩ := hx
      obtain ⟨hk, hf, hkbits⟩ := hy
      obtain ⟨hxmagnitude, hxsign⟩ := (finite_eqInt_iff he).mp hxn
      obtain ⟨hymagnitude, hysign⟩ := (finite_eqInt_iff hf).mp hyn
      obtain ⟨rfl, hexponent⟩ := eq_of_scaled hm hk (hmbits.imp_left (by omega))
        (hkbits.imp_left (by omega)) (hxmagnitude.trans hymagnitude.symm)
      have hsame : e = f := by omega
      by_cases hzero : n = 0
      · subst hzero
        have hnone : m = 0 := by
          rw [Int.natAbs_zero, Nat.zero_mul, Nat.mul_eq_zero] at hxmagnitude
          exact hxmagnitude.resolve_right (Nat.ne_of_gt (twoTo_pos _))
        simp [numEq, hnone]
      · have hsign : s = t := (hxsign.resolve_left hzero).trans (hysign.resolve_left hzero).symm
        simp [numEq, hsame, hsign]

theorem finite_numEq_iff {s t : Bool} {m k : Nat} {e f : Int} :
    (finite s m e).numEq (finite t k f) = true ↔ m = k ∧ (m = 0 ∨ s = t ∧ e = f) := by
  simp [numEq]

theorem zero_eqInt (negative : Bool) (exponent n : Int) :
    (finite negative 0 exponent).eqInt n = decide (n = 0) := by
  have hden := ratio_den_pos 0 exponent
  have hnum : (ratio 0 exponent).1 = 0 := by
    rw [ratio]
    split <;> simp
  rw [Bool.eq_iff_iff]
  simp only [eqInt, hnum, Bool.and_eq_true, Bool.or_eq_true, beq_iff_eq, decide_eq_true_iff]
  constructor
  · rintro ⟨hzero, -⟩
    have hnone := (Nat.mul_eq_zero.mp hzero.symm).resolve_right (Nat.ne_of_gt hden)
    exact Int.natAbs_eq_zero.mp hnone
  · rintro rfl
    exact ⟨(Nat.zero_mul _).symm, .inl rfl⟩

theorem eqInt_of_numEq {x y : Binary64} (h : x.numEq y = true) (n : Int) :
    x.eqInt n = y.eqInt n := by
  match x, y, h with
  | finite _ _ _, finite _ _ _, h =>
    obtain ⟨rfl, rfl | ⟨rfl, rfl⟩⟩ := finite_numEq_iff.mp h
    · rw [zero_eqInt, zero_eqInt]
    · rfl
  | infinite _, infinite _, _ => rfl

theorem numEq_comm (x y : Binary64) : x.numEq y = y.numEq x := by
  match x, y with
  | finite _ _ _, finite _ _ _ =>
    rw [Bool.eq_iff_iff, finite_numEq_iff, finite_numEq_iff]
    grind
  | infinite s, infinite t => exact Bool.beq_comm
  | finite _ _ _, infinite _ | finite _ _ _, nan | infinite _, finite _ _ _ | infinite _, nan
  | nan, finite _ _ _ | nan, infinite _ | nan, nan => rfl

theorem numEq_trans {x y z : Binary64} (hxy : x.numEq y = true) (hyz : y.numEq z = true) :
    x.numEq z = true := by
  match x, y, z, hxy, hyz with
  | finite _ _ _, finite _ _ _, finite _ _ _, hxy, hyz =>
    rw [finite_numEq_iff] at *
    grind
  | infinite _, infinite _, infinite _, hxy, hyz =>
    exact beq_iff_eq.mpr ((beq_iff_eq.mp hxy).trans (beq_iff_eq.mp hyz))

theorem numEq_self {x : Binary64} (hx : x ≠ nan) : x.numEq x = true := by
  match x, hx with
  | finite _ _ _, _ => exact finite_numEq_iff.mpr ⟨rfl, .inr ⟨rfl, rfl⟩⟩
  | infinite _, _ => exact beq_self_eq_true _

theorem eq_of_eqInt {x : Binary64} {m n : Int} (hm : x.eqInt m = true) (hn : x.eqInt n = true) :
    m = n := by
  match x, hm, hn with
  | finite negative mantissa exponent, hm, hn =>
    have hden := ratio_den_pos mantissa exponent
    simp only [eqInt, Bool.and_eq_true, Bool.or_eq_true, beq_iff_eq] at hm hn
    have hmagnitude : m.natAbs = n.natAbs :=
      Nat.eq_of_mul_eq_mul_right hden (hm.1.symm.trans hn.1)
    rcases hm.2 with hm | hm <;> rcases hn.2 with hn | hn <;> grind

end Binary64

end Substitute
