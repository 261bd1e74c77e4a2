import SiteTrial.Value.Number
import SiteTrial.Proofs.Decimal.Normal

/-!
# Integers that doubles hold

A double without its fraction is an integer that a double holds exactly, however large it is. So nothing
is lost where it is made a double once more.

* `IsWholePart` : an integer that is some double without its fraction;
* `IsWholePart.exists_double` : it is that of the double nearest to it.
-/

namespace SiteTrial

def IsWholePart (n : Int) : Prop := ∃ x : Float, integerOf .towardsZero x = .ok n

namespace Decimal

open Float.Model.UnpackedFloat (Sign)

theorem Binary.bounds_of_ofFloat {x : Float} {negative : Bool} {c : Nat} {q : Int}
    (h : ofFloat x = .finite negative c q) : c < 2 ^ 53 ∧ q ≤ 971 := by
  unfold ofFloat at h
  simp only [Nat.pow_eq] at h
  generalize x.toBits.toNat = bits at h
  split at h
  · split at h <;> cases h
  · split at h
    · cases h
      omega
    · cases h
      omega

/-- The size of a double without its fraction is a multiple of a power of two. -/
theorem exists_scaled_of_integerOf {x : Float} {n : Int} (h : integerOf .towardsZero x = .ok n) :
    ∃ c q : Nat, c < 2 ^ 53 ∧ q ≤ 971 ∧ n.natAbs = c * 2 ^ q := by
  unfold integerOf at h
  cases hx : Binary.ofFloat x with
  | notANumber =>
      rw [hx] at h
      cases h
  | infinite negative =>
      rw [hx] at h
      cases h
  | finite negative c q =>
      obtain ⟨hc, hq⟩ := Binary.bounds_of_ofFloat hx
      rw [hx] at h
      have hn : Binary.Rounding.apply .towardsZero negative (Binary.fraction c q).1
          (Binary.fraction c q).2 = n := Except.ok.inj h
      have habs : ∀ num den : Nat,
          (Binary.Rounding.apply .towardsZero negative num den).natAbs = num / den := by
        intro num den
        show (if negative then -((num / den : Nat) : Int) else ((num / den : Nat) : Int)).natAbs = _
        split
        · rw [Int.natAbs_neg, Int.natAbs_natCast]
        · rw [Int.natAbs_natCast]
      rw [← hn, habs]
      unfold Binary.fraction
      split
      · exact ⟨c, q.toNat, hc, by omega, Nat.div_one _⟩
      · refine ⟨c / 2 ^ (-q).toNat, 0, ?_, by decide, (Nat.mul_one _).symm⟩
        exact Nat.lt_of_le_of_lt (Nat.div_le_self ..) hc

namespace Normal

/-- Such a number has a mantissa of full width. -/
theorem exists_of_scaled {c q : Nat} (hpos : 0 < c) (hc : c < 2 ^ 53) (hq : q ≤ 971) :
    ∃ m e, Normal m e ∧ -52 ≤ e ∧ c * 2 ^ q * 2 ^ 52 = m * 2 ^ (e + 52).toNat := by
  have hne : c ≠ 0 := Nat.ne_of_gt hpos
  have hlog : c.log2 < 53 := (Nat.log2_lt hne).2 hc
  have hsum : c.log2 + (52 - c.log2) = 52 := by omega
  refine ⟨c * 2 ^ (52 - c.log2), (q : Int) + c.log2 - 52, ⟨?_, ?_, by omega, by omega⟩, by omega, ?_⟩
  · calc 2 ^ 52 = 2 ^ c.log2 * 2 ^ (52 - c.log2) := by rw [← Nat.pow_add, hsum]
      _ ≤ c * 2 ^ (52 - c.log2) := Nat.mul_le_mul_right _ (Nat.log2_self_le hne)
  · calc c * 2 ^ (52 - c.log2) < 2 ^ (c.log2 + 1) * 2 ^ (52 - c.log2) :=
          Nat.mul_lt_mul_of_pos_right Nat.lt_log2_self (Nat.two_pow_pos _)
      _ = 2 ^ 53 := by rw [← Nat.pow_add, Nat.add_right_comm, hsum]
  · have hexponent : ((q : Int) + c.log2 - 52 + 52).toNat = q + c.log2 := by omega
    rw [hexponent, Nat.mul_assoc, Nat.mul_assoc, ← Nat.pow_add, ← Nat.pow_add]
    congr 2
    omega

variable {m n : Nat} {e : Int}

theorem integerOf_packed (h : Normal m e) (he : -52 ≤ e) (hn : n * 2 ^ 52 = m * 2 ^ (e + 52).toNat)
    (s : Sign) : integerOf .towardsZero (h.packed s) = .ok (s.apply n) := by
  have hsize : ∀ num den : Nat, num / den = n →
      Binary.Rounding.apply .towardsZero (s == .negative) num den = s.apply n := by
    rintro num den rfl
    cases s <;> rfl
  rw [integerOf, h.ofFloat_packed]
  show Except.ok (Binary.Rounding.apply .towardsZero _ (Binary.fraction m e).1 (Binary.fraction m e).2) = _
  rw [hsize]
  unfold Binary.fraction
  split
  · next hwhole =>
      have hexponent : (e + 52).toNat = e.toNat + 52 := by omega
      rw [hexponent, Nat.pow_add, ← Nat.mul_assoc] at hn
      rw [Nat.div_one, Nat.pow_eq]
      omega
  · next hpart =>
      have hexponent : 52 = (-e).toNat + (e + 52).toNat := by omega
      rw [hexponent, Nat.pow_add, ← Nat.mul_assoc] at hn
      have hm : n * 2 ^ (-e).toNat = m := Nat.eq_of_mul_eq_mul_right (Nat.two_pow_pos _) (by omega)
      rw [← hm]
      exact Nat.mul_div_cancel _ (Nat.two_pow_pos _)

theorem doubleOfInt_eq (h : Normal m e) (he : -52 ≤ e) (hn : n * 2 ^ 52 = m * 2 ^ (e + 52).toNat)
    (s : Sign) : doubleOfInt (s.apply n) = .ok (h.packed s) := by
  have hdouble : Float.ofInt (s.apply n) = h.packed s := by
    cases s with
    | positive => exact h.ofNat_eq he hn
    | negative =>
        obtain ⟨k, rfl⟩ := Nat.exists_eq_succ_of_ne_zero (h.log2_of_eq hn).1
        show (Float.ofNat (k + 1)).neg = _
        rw [h.ofNat_eq he hn, h.neg_packed]
  rw [doubleOfInt, hdouble, h.isFinite_packed, if_pos rfl]

end Normal

end Decimal

namespace IsWholePart

theorem exists_double_zero : ∃ x, doubleOfInt 0 = .ok x ∧ integerOf .towardsZero x = .ok 0 := by
  have hparts : Decimal.Binary.ofFloat (.ofInt 0) = .finite false 0 (-1074) := rfl
  refine ⟨.ofInt 0, rfl, ?_⟩
  rw [integerOf, hparts]
  show Except.ok (Int.ofNat (0 / _)) = _
  rw [Nat.zero_div]
  rfl

/-- The double nearest to such an integer is the integer itself. -/
theorem exists_double {n : Int} (h : IsWholePart n) :
    ∃ x, doubleOfInt n = .ok x ∧ integerOf .towardsZero x = .ok n := by
  obtain ⟨x, hx⟩ := h
  obtain ⟨c, q, hc, hq, hsize⟩ := Decimal.exists_scaled_of_integerOf hx
  rcases Nat.eq_zero_or_pos c with rfl | hpos
  · rw [Nat.zero_mul, Int.natAbs_eq_zero] at hsize
    rw [hsize]
    exact exists_double_zero
  · obtain ⟨m, e, hnormal, he, heq⟩ := Decimal.Normal.exists_of_scaled hpos hc hq
    rw [← hsize] at heq
    obtain ⟨s, hs⟩ : ∃ s : Float.Model.UnpackedFloat.Sign, s.apply n.natAbs = n := by
      rcases Int.natAbs_eq n with hn | hn
      · exact ⟨.positive, hn.symm⟩
      · exact ⟨.negative, hn.symm⟩
    have hdouble := hnormal.doubleOfInt_eq he heq s
    have hinteger := hnormal.integerOf_packed he heq s
    rw [hs] at hdouble hinteger
    exact ⟨_, hdouble, hinteger⟩

end IsWholePart

end SiteTrial
