import Mathlib
import SiteTrial.Decimal.Binary

/-!
# Finite doubles

* `isFinite_iff` : the doubles of the highest exponent are not finite, all others are;
* `exists_finite_iff` : a double is finite exactly if it can be taken apart.
-/

namespace SiteTrial.Decimal

open Float.Model Float.Model.UnpackedFloat

theorem toNat_unpackExponent (b : BitVec 64) :
    (@unpackExponent .binary64 b).toNat = b.toNat / 2 ^ 52 % 2 ^ 11 := by
  show (BitVec.extractLsb 62 52 b).toNat = _
  rw [BitVec.extractLsb_toNat, Nat.shiftRight_eq_div_pow]

theorem isFinite_iff (x : Float) :
    x.isFinite = true ↔ x.toBits.toNat / 2 ^ 52 % 2 ^ 11 ≠ 2047 := by
  have hexponent : (@unpackExponent .binary64 x.toBits.toBitVec).toNat =
      x.toBits.toNat / 2 ^ 52 % 2 ^ 11 := toNat_unpackExponent _
  have hmax : @unpackExponent .binary64 x.toBits.toBitVec = -1#11 ↔
      x.toBits.toNat / 2 ^ 52 % 2 ^ 11 = 2047 := by
    rw [← hexponent]
    exact BitVec.toNat_inj.symm
  show (UnpackedFloat.unpack .binary64 x.toBits.toBitVec).isFinite = true ↔ _
  unfold UnpackedFloat.unpack
  rw [Ne, ← hmax]
  dsimp only
  split
  · next h =>
      refine iff_of_false ?_ (not_not.2 h)
      split <;> exact Bool.false_ne_true
  · next h =>
      refine iff_of_true ?_ h
      split
      · split <;> rfl
      · rfl

theorem exists_finite_iff {x : Float} :
    (∃ negative m q, Binary.ofFloat x = .finite negative m q) ↔ x.isFinite = true := by
  rw [isFinite_iff]
  unfold Binary.ofFloat
  simp only [Nat.pow_eq]
  generalize x.toBits.toNat = bits
  split
  · next h =>
      refine iff_of_false ?_ (not_not.2 h)
      rintro ⟨negative, m, q, hparts⟩
      split at hparts <;> cases hparts
  · next h =>
      refine iff_of_true ?_ h
      split <;> exact ⟨_, _, _, rfl⟩

end SiteTrial.Decimal
