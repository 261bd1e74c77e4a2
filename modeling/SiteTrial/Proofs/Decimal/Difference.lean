import SiteTrial.Proofs.Decimal.Operations
import SiteTrial.Proofs.Decimal.Sign

/-!
# Differences of doubles

A difference of finite doubles can be too large for a double, and then it is infinite. But it is never the double that
is no number, and so it is below zero or not.

* `unpack_pack_ne_notANumber` : packing makes numbers of numbers;
* `sub_ne_notANumber` : a difference of finite doubles is a number;
* `zero_le_iff` : what is not below zero, and is a number, is above zero or zero.
-/

namespace SiteTrial.Decimal

open Float.Model Float.Model.UnpackedFloat

/-! ## Packing -/

theorem unpack_packComponents_ne_notANumber (s : Sign) {e : BitVec 11} {m : BitVec 52} (h : e = -1#11 → m = 0#52) :
    UnpackedFloat.unpack .binary64 (packComponents .binary64 s e m) ≠ .notANumber := by
  unfold UnpackedFloat.unpack
  simp only [unpackMantissa_packComponents, unpackExponent_packComponents]
  split
  · next hmax =>
      rw [if_pos (h hmax)]
      nofun
  · split
    · split <;> nofun
    · nofun

theorem unpack_pack_ne_notANumber {p : UnpackedFloat} (h : p ≠ .notANumber) :
    UnpackedFloat.unpack .binary64 (UnpackedFloat.pack .binary64 p) ≠ .notANumber := by
  cases p with
  | notANumber => exact absurd rfl h
  | infinity s => exact unpack_packComponents_ne_notANumber s fun _ => rfl
  | zero s => exact unpack_packComponents_ne_notANumber s fun _ => rfl
  | finite s m e hm =>
      unfold UnpackedFloat.pack
      dsimp only
      split
      · exact unpack_packComponents_ne_notANumber s fun _ => rfl
      · next hfits =>
          split
          · refine unpack_packComponents_ne_notANumber s fun hmax => ?_
            have hexponent := congrArg BitVec.toNat hmax
            rw [BitVec.toNat_ofNat] at hexponent
            change _ % 2 ^ 11 = 2047 at hexponent
            change ¬ 2 ^ 11 ≤ _ at hfits
            omega
          · exact unpack_packComponents_ne_notANumber s nofun

/-! ## Differences -/

theorem roundWithAccuracy_ne_notANumber (s : Sign) (m : ℕ) (e : ℤ) (a : Accuracy) :
    roundWithAccuracy .binary64 s m e a ≠ .notANumber := by
  unfold roundWithAccuracy
  dsimp only
  split <;> nofun

theorem normalize_ne_notANumber (n e : ℤ) (s : Sign) : UnpackedFloat.normalize .binary64 n e s ≠ .notANumber := by
  unfold UnpackedFloat.normalize
  split
  · exact roundWithAccuracy_ne_notANumber _ _ _ _
  · nofun
  · exact roundWithAccuracy_ne_notANumber _ _ _ _

variable {x y : Float}

theorem ne_notANumber_of_isFinite (h : x.isFinite = true) : x.toModel.unpack ≠ .notANumber := by
  intro hnot
  have hformed := isFormed_unpack h
  rw [hnot] at hformed
  exact hformed

theorem sub_ne_notANumber (hx : x.isFinite = true) (hy : y.isFinite = true) :
    (x - y).toModel.unpack ≠ .notANumber := by
  refine unpack_pack_ne_notANumber ?_
  have hx := isFormed_unpack hx
  have hy := isFormed_unpack hy
  generalize x.toModel.unpack = p at hx
  generalize y.toModel.unpack = q at hy
  match p, q with
  | .zero s, .zero s' =>
      show (if s == -s' then UnpackedFloat.zero s else _) ≠ _
      split <;> nofun
  | .zero _, .finite _ _ _ _ | .finite _ _ _ _, .zero _ => nofun
  | .finite _ _ _ _, .finite _ _ _ _ => exact normalize_ne_notANumber _ _ _

/-! ## Not below zero -/

theorem zero_le_iff : 0.0 ≤ x ↔ x.toModel.unpack ≠ .notANumber ∧ ¬ x < 0.0 := by
  have hzero : (0.0 : Float).toModel.unpack = .zero .positive := rfl
  have hle : 0.0 ≤ x ↔ ((UnpackedFloat.zero .positive).compare x.toModel.unpack).any (·.isLE) = true :=
    decide_eq_true_iff
  have hlt : x < 0.0 ↔ x.toModel.unpack.compare (.zero .positive) = some .lt := by
    rw [lt_iff_compare, hzero]
  rw [hle, hlt]
  match x.toModel.unpack with
  | .notANumber => exact iff_of_false nofun fun h => h.1 rfl
  | .infinity .positive | .zero _ | .finite .positive _ _ _ => exact iff_of_true rfl ⟨nofun, nofun⟩
  | .infinity .negative | .finite .negative _ _ _ => exact iff_of_false nofun fun h => h.2 rfl

theorem zero_le_zero : (0.0 : Float) ≤ 0.0 := zero_le_iff.2 ⟨nofun, not_lt_zero_of_upright rfl⟩

end SiteTrial.Decimal
