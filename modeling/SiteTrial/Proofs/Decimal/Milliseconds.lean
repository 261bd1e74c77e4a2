import SiteTrial.Proofs.Decimal.Difference
import SiteTrial.Ticks

/-!
# Times as doubles

A time is a double that is never below zero. Up to some thirty thousand years it is exactly the time in milliseconds, so
that times can be added and compared as the ticks of the clock can.

* `zero_le_milliseconds` : no time is below zero;
* `Lasts` : the double is exactly the time of a number of ticks; `lasts_milliseconds`, `Lasts.add`, `Lasts.le` : which
  ones are, their sums, and their order;
* `le_of_number_le` : doubles are in the order of the numbers that they stand for.
-/

namespace SiteTrial

namespace Decimal

open Float.Model Float.Model.UnpackedFloat

variable {x y : Float}

/-! ## Order -/

/-- Doubles without a minus sign are in the order of their numbers. -/
theorem le_of_number_le (hx : x.isFinite = true) (hy : y.isFinite = true) (hupright : IsUpright x)
    (hupright' : IsUpright y) (h : number x ≤ number y) : x ≤ y := by
  have hle : x ≤ y ↔ (x.toModel.unpack.compare y.toModel.unpack).any (·.isLE) = true := decide_eq_true_iff
  have hone : (Sign.positive.apply 1 : ℝ) = 1 := Int.cast_one
  have hformed := isFormed_unpack hx
  have hformed' := isFormed_unpack hy
  rw [hle]
  unfold number at h
  unfold IsUpright at hupright hupright'
  generalize x.toModel.unpack = p at *
  generalize y.toModel.unpack = q at *
  match p, q with
  | .zero _, .zero _ | .zero _, .finite .positive _ _ _ => rfl
  | .finite .positive m e hm, .zero _ =>
      rw [valueOf_finite, valueOf_zero, hone, one_mul] at h
      exact absurd h (mul_pos (Nat.cast_pos.2 hm) (zpow_pos two_pos e)).not_ge
  | .finite .positive m e hm, .finite .positive m' e' hm' =>
      rw [valueOf_finite, valueOf_finite, hone, one_mul, one_mul] at h
      show ((compare e e').then (compare m m')).isLE = true
      by_contra hnot
      have hgt : (compare e' e).then (compare m' m) = .lt := by
        have hexponent : compare e' e = (compare e e').swap := Std.OrientedCmp.eq_swap
        have hmantissa : compare m' m = (compare m m').swap := Std.OrientedCmp.eq_swap
        rw [Ordering.isLE_iff_ne_gt, not_not] at hnot
        rw [hexponent, hmantissa, ← Ordering.swap_then, hnot]
        rfl
      exact absurd h (mul_two_pow_lt hformed'.1 hformed'.2.1 hformed.2.2.2 hgt).not_ge

/-! ## Times -/

/-- A number times a number that is neither zero nor infinite. -/
theorem mul_ne_notANumber {p q : UnpackedFloat} (hp : p ≠ .notANumber) {s : Sign} {m : ℕ} {e : ℤ} {hm : 0 < m}
    (hq : q = .finite s m e hm) : UnpackedFloat.mul .binary64 p q ≠ .notANumber := by
  subst hq
  cases p with
  | notANumber => exact absurd rfl hp
  | infinity _ | zero _ => nofun
  | finite s' m' e' hm' => exact roundWithAccuracy_ne_notANumber _ _ _ _

theorem ofScientific_ne_notANumber (n : ℕ) {e : ℤ} (he : 0 ≤ e) :
    UnpackedFloat.ofScientific .binary64 n e ≠ .notANumber := by
  unfold UnpackedFloat.ofScientific
  split
  · nofun
  · split
    · nofun
    · split
      · nofun
      · exact mul_ne_notANumber nofun rfl

theorem ofNat_ne_notANumber (n : ℕ) : (Float.ofNat n).toModel.unpack ≠ .notANumber := by
  show (Float.ofScientific n false 0).toModel.unpack ≠ .notANumber
  unfold Float.ofScientific
  split
  · -- up to the width of a mantissa it is a product with one
    have hone : (Float.ofBits 0x3FF0000000000000).toModel.unpack =
        .finite .positive (2 ^ 52) (-52) (by decide) := rfl
    exact unpack_pack_ne_notANumber (mul_ne_notANumber (unpack_pack_ne_notANumber (normalize_ne_notANumber _ _ _)) hone)
  · exact unpack_pack_ne_notANumber (ofScientific_ne_notANumber n (Int.le_refl 0))

/-- The milliseconds of a tick. -/
theorem unpack_tick : (15.625 : Float).toModel.unpack = .finite .positive 8796093022208000 (-49) (by decide) := rfl

/-- No time is below zero, however long it is. -/
theorem zero_le_milliseconds (n : ℕ) : 0.0 ≤ milliseconds n := by
  have htick : IsUpright (15.625 : Float) := rfl
  refine zero_le_iff.2 ⟨?_, not_lt_zero_of_upright (IsUpright.mul (upright_ofNat n) htick)⟩
  exact unpack_pack_ne_notANumber (mul_ne_notANumber (ofNat_ne_notANumber n) unpack_tick)

/-- The double is exactly the time of so many ticks in milliseconds. -/
structure Lasts (x : Float) (n : ℕ) : Prop where
  finite : x.isFinite = true
  number : number x = n * 125 / 8
  upright : IsUpright x

/-- The times that are doubles. -/
theorem mark_time {n : ℕ} (h : 125 * n ≤ 2 ^ 53) : Mark (n * 125 / 8) := by
  have hmark : Mark ((125 * n : ℕ) * 2 ^ (-3 : ℤ)) := mark_natCast_mul h (by decide) (by decide)
  convert hmark using 1
  push_cast
  norm_num
  ring

theorem lasts_milliseconds {n : ℕ} (h : 125 * n ≤ 2 ^ 53) : Lasts (milliseconds n) n := by
  have hcount := (rounds_ofNat n).exact (mark_natCast (by omega))
  have htick : (15.625 : Float).isFinite = true ∧ Decimal.number 15.625 = 125 / 8 := by
    refine ⟨rfl, ?_⟩
    rw [Decimal.number, unpack_tick, valueOf_finite]
    norm_num [Sign.apply]
  have hproduct := rounds_mul hcount.1 htick.1
  rw [hcount.2, htick.2, ← mul_div_assoc] at hproduct
  have hexact := hproduct.exact (mark_time h)
  have hupright : IsUpright (15.625 : Float) := rfl
  exact ⟨hexact.1, hexact.2, IsUpright.mul (upright_ofNat n) hupright⟩

namespace Lasts

variable {m n : ℕ}

theorem add (hx : Lasts x m) (hy : Lasts y n) (h : 125 * (m + n) ≤ 2 ^ 53) : Lasts (x + y) (m + n) := by
  have hsum := rounds_add hx.finite hy.finite
  have hticks : (m * 125 / 8 + n * 125 / 8 : ℝ) = (m + n : ℕ) * 125 / 8 := by
    push_cast
    ring
  rw [hx.number, hy.number, hticks] at hsum
  have hexact := hsum.exact (mark_time h)
  exact ⟨hexact.1, hexact.2, hx.upright.add hy.upright⟩

theorem le (hx : Lasts x m) (hy : Lasts y n) (h : m ≤ n) : x ≤ y := by
  refine le_of_number_le hx.finite hy.finite hx.upright hy.upright ?_
  rw [hx.number, hy.number]
  have hcast : (m : ℝ) ≤ n := Nat.cast_le.2 h
  linarith

end Lasts

end Decimal

end SiteTrial
