import SiteTrial.Proofs.Decimal.Normal

/-!
# Rounded numbers

A result of arithmetic is a real number, of which a double is made by rounding. How it is rounded does not
matter for bounds: whatever double is between the number and a bound, or is the bound, is not crossed.

* `number` : the number that a double stands for;
* `Mark` : a number that a finite double stands for;
* `Between`, `Rounds` : a double whose number is within bounds, and one that does not cross a mark;
* `Residue` : what the mantissa and the two bits behind it say of a number;
* `rounds_roundWithAccuracy` : rounding crosses no mark.
-/

namespace SiteTrial.Decimal

open Float.Model Float.Model.UnpackedFloat

/-! ## The numbers of doubles -/

/-- The number that parts stand for; those of no number stand for zero. -/
noncomputable def valueOf : UnpackedFloat → ℝ
  | .finite s m e _ => s.apply m * 2 ^ e
  | _ => 0

/-- The number that a double stands for. -/
noncomputable def number (x : Float) : ℝ := valueOf x.toModel.unpack

/-- A finite double whose number is within bounds. -/
structure Between (lo hi : ℝ) (x : Float) : Prop where
  finite : x.isFinite = true
  le : lo ≤ number x
  ge : number x ≤ hi

/-- A number with a mantissa of 53 digits or fewer and the exponent of a double. -/
def Mark (b : ℝ) : Prop :=
  ∃ (c : ℤ) (k : ℤ), |c| < 2 ^ 53 ∧ -1074 ≤ k ∧ k ≤ 971 ∧ b = c * 2 ^ k

/-- The double is within all marks that the number is within. -/
def Rounds (x : Float) (r : ℝ) : Prop :=
  ∀ lo hi, Mark lo → Mark hi → lo ≤ r → r ≤ hi → Between lo hi x

theorem Mark.lt {b : ℝ} (h : Mark b) : b < 2 ^ 1024 := by
  obtain ⟨c, k, hc, -, hhigh, rfl⟩ := h
  have hc' : (c : ℝ) < 2 ^ 53 := by
    exact_mod_cast (le_abs_self c).trans_lt hc
  calc (c : ℝ) * 2 ^ k
      < 2 ^ 53 * 2 ^ k := mul_lt_mul_of_pos_right hc' (zpow_pos two_pos k)
    _ ≤ 2 ^ 53 * 2 ^ (971 : ℤ) :=
        mul_le_mul_of_nonneg_left (zpow_le_zpow_right₀ one_le_two hhigh) (by positivity)
    _ = 2 ^ 1024 := by rw [zpow_ofNat, ← pow_add]

theorem Mark.neg {b : ℝ} (h : Mark b) : Mark (-b) := by
  obtain ⟨c, k, hc, hlow, hhigh, rfl⟩ := h
  exact ⟨-c, k, by rwa [abs_neg], hlow, hhigh, by push_cast; ring⟩

theorem mark_zero : Mark 0 := ⟨0, 0, by decide, by decide, by decide, by simp⟩

/-- The least mantissa of 54 digits is one of 53 digits with the next exponent. -/
theorem mark_natCast_mul {c : ℕ} {k : ℤ} (hc : c ≤ 2 ^ 53) (hlow : -1074 ≤ k) (hhigh : k ≤ 970) :
    Mark (c * 2 ^ k) := by
  rcases hc.lt_or_eq with hlt | rfl
  · exact ⟨c, k, by rw [Nat.abs_cast]; exact_mod_cast hlt, hlow, by omega, by simp⟩
  · refine ⟨2 ^ 52, k + 1, by decide, by omega, by omega, ?_⟩
    rw [zpow_add_one₀ two_ne_zero]
    push_cast
    ring

theorem mark_natCast_mul_two_pow {c k : ℕ} (hc : c ≤ 2 ^ 53) (hk : k ≤ 970) : Mark (c * 2 ^ k) := by
  rw [← zpow_natCast]
  exact mark_natCast_mul hc (by omega) (by omega)

theorem mark_natCast {c : ℕ} (hc : c ≤ 2 ^ 53) : Mark c := by
  simpa using mark_natCast_mul_two_pow hc (Nat.zero_le 970)

theorem mark_two_pow {k : ℕ} (hk : k ≤ 970) : Mark (2 ^ k) := by
  simpa using mark_natCast_mul_two_pow (c := 1) (by decide) hk

theorem mark_one : Mark 1 := by
  simpa using mark_two_pow (Nat.zero_le 970)

theorem Rounds.exact {x : Float} {r : ℝ} (h : Rounds x r) (hr : Mark r) :
    x.isFinite = true ∧ number x = r := by
  obtain ⟨hfinite, hle, hge⟩ := h r r hr hr le_rfl le_rfl
  exact ⟨hfinite, le_antisymm hge hle⟩

/-! ## Mantissas with residual bits -/

/-- A number lies where a mantissa and the bits behind it say: between two mantissas, and on the lower one
exactly if the bits say so. -/
structure Residue (em : ExtendedMantissa) (y : ℝ) : Prop where
  le : em.mantissa ≤ y
  lt : y < em.mantissa + 1
  exact_iff : y = em.mantissa ↔ em.roundBit = false ∧ em.stickyBit = false

namespace Residue

variable {em : ExtendedMantissa} {y : ℝ} {c : ℕ}

theorem ofExact (m : ℕ) : Residue (.ofMantissaAndAccuracy m .exact) m :=
  ⟨le_rfl, lt_add_one _, iff_of_true rfl ⟨rfl, rfl⟩⟩

theorem ofInexact {m : ℕ} (o : Ordering) (hlow : (m : ℝ) < y) (hhigh : y < m + 1) :
    Residue (.ofMantissaAndAccuracy m (.inexact o)) y := by
  cases o with
  | lt => exact ⟨hlow.le, hhigh, iff_of_false hlow.ne' nofun⟩
  | eq => exact ⟨hlow.le, hhigh, iff_of_false hlow.ne' nofun⟩
  | gt => exact ⟨hlow.le, hhigh, iff_of_false hlow.ne' nofun⟩

theorem shiftRightOne (h : Residue em y) : Residue em.shiftRightOne (y / 2) := by
  have hlow := h.le
  have hhigh := h.lt
  have hsplit : (em.mantissa : ℝ) = (em.mantissa % 2 : ℕ) + 2 * (em.mantissa / 2 : ℕ) := by
    exact_mod_cast (Nat.mod_add_div em.mantissa 2).symm
  rw [hsplit] at hlow hhigh
  unfold ExtendedMantissa.shiftRightOne
  rcases Nat.mod_two_eq_zero_or_one em.mantissa with heven | hodd
  · rw [heven, Nat.cast_zero] at hlow hhigh hsplit
    refine ⟨by dsimp only; linarith, by dsimp only; linarith, ?_⟩
    have hsame : y / 2 = (em.mantissa / 2 : ℕ) ↔ y = em.mantissa := by
      rw [hsplit, div_eq_iff two_ne_zero, zero_add, mul_comm]
    dsimp only
    rw [hsame, h.exact_iff, heven]
    cases em.roundBit <;> cases em.stickyBit <;> decide
  · rw [hodd, Nat.cast_one] at hlow hhigh
    refine ⟨by dsimp only; linarith, by dsimp only; linarith, iff_of_false ?_ ?_⟩
    · dsimp only
      intro heq
      linarith
    · simp [hodd]

/-- Digits that are shifted out are kept in the bits. -/
theorem shiftRight (h : Residue em y) (k : ℕ) : Residue (em >>> k) (y / 2 ^ k) := by
  induction k with
  | zero =>
      rw [pow_zero, div_one]
      exact h
  | succ k ih =>
      rw [pow_succ, ← div_div]
      exact ih.shiftRightOne

theorem roundedMantissa_le (em : ExtendedMantissa) : em.roundedMantissa ≤ em.mantissa + 1 := by
  unfold ExtendedMantissa.roundedMantissa ExtendedMantissa.accuracy
  split <;> simp only [Accuracy.roundToNearestEven] <;> omega

theorem le_roundedMantissa (em : ExtendedMantissa) : em.mantissa ≤ em.roundedMantissa := by
  unfold ExtendedMantissa.roundedMantissa ExtendedMantissa.accuracy
  split <;> simp only [Accuracy.roundToNearestEven] <;> omega

/-- No natural number lies between a number and the mantissa that it is rounded to. -/
theorem rounded_le (h : Residue em y) (hle : y ≤ c) : em.roundedMantissa ≤ c := by
  have hfloor : em.mantissa ≤ c := by exact_mod_cast h.le.trans hle
  rcases hfloor.lt_or_eq with hlt | heq
  · exact (roundedMantissa_le em).trans hlt
  · have hbits := h.exact_iff.1 (le_antisymm (heq ▸ hle) h.le)
    rcases em with ⟨m, _, _⟩
    obtain ⟨rfl, rfl⟩ := hbits
    exact heq.le

theorem le_rounded (h : Residue em y) (hle : (c : ℝ) ≤ y) : c ≤ em.roundedMantissa := by
  have hfloor : c < em.mantissa + 1 := by exact_mod_cast hle.trans_lt h.lt
  exact (Nat.lt_succ_iff.1 hfloor).trans (le_roundedMantissa em)

end Residue

/-! ## Mantissas of the right width -/

/-- A number as a mantissa, with residual bits, that has an exponent of doubles and not too few digits. -/
structure Shifted (x : ℝ) (em : ExtendedMantissa) (t : ℤ) : Prop where
  residue : Residue em (x / 2 ^ t)
  low : -1074 ≤ t
  narrow : em.mantissa < 2 ^ 53
  wide : 2 ^ 52 ≤ em.mantissa ∨ t = -1074

theorem targetExponent_eq (m : ℕ) (e : ℤ) :
    Format.binary64.targetExponent (totalExponent m e) = max (m.log2 + e - 52) (-1074) := by
  rw [totalExponent, Format.targetExponent]
  show max ((m.log2 : ℤ) + 1 + e - (53 : ℕ)) (-1074) = _
  omega

theorem mantissa_ofMantissaAndAccuracy (m : ℕ) (a : Accuracy) :
    (ExtendedMantissa.ofMantissaAndAccuracy m a).mantissa = m := by
  rcases a with _ | (_ | _ | _) <;> rfl

/-- What is shifted to the exponent that suits it has the right width. -/
theorem exists_shifted {m : ℕ} {e : ℤ} {a : Accuracy} {x : ℝ} (hwide : 52 ≤ m.log2 ∨ e ≤ -1074)
    (h : Residue (.ofMantissaAndAccuracy m a) (x / 2 ^ e)) :
    ∃ em t, shiftToTargetExponent .binary64 m e a = (em, t) ∧ Shifted x em t := by
  obtain ⟨n, hn⟩ : ∃ n : ℕ, max ((m.log2 : ℤ) + e - 52) (-1074) = e + n :=
    ⟨(max ((m.log2 : ℤ) + e - 52) (-1074) - e).toNat, by omega⟩
  have hshift : shiftToTargetExponent .binary64 m e a =
      (ExtendedMantissa.ofMantissaAndAccuracy m a >>> n, e + n) := by
    unfold shiftToTargetExponent shiftToExponent
    rw [targetExponent_eq, hn]
    dsimp only
    rw [add_sub_cancel_left, Int.toNat_natCast]
  have hresidue : Residue (ExtendedMantissa.ofMantissaAndAccuracy m a >>> n) (x / 2 ^ (e + n)) := by
    rw [zpow_add₀ two_ne_zero, ← div_div, zpow_natCast]
    exact h.shiftRight n
  have hsplit : x / 2 ^ (e + n) * 2 ^ n = x / 2 ^ e := by
    rw [zpow_add₀ two_ne_zero, ← div_div, zpow_natCast, div_mul_cancel₀ _ (by positivity)]
  have hmantissa := mantissa_ofMantissaAndAccuracy m a
  have hlow := h.le
  have hhigh := h.lt
  rw [hmantissa, ← hsplit] at hlow hhigh
  refine ⟨_, _, hshift, hresidue, by omega, ?_, ?_⟩
  · have hm : (m : ℝ) + 1 ≤ 2 ^ 53 * 2 ^ n := by
      have hdigits : m < 2 ^ (53 + n) :=
        Nat.lt_log2_self.trans_le (Nat.pow_le_pow_right two_pos (by omega))
      rw [pow_add] at hdigits
      exact_mod_cast hdigits
    have hbelow : x / 2 ^ (e + n) < 2 ^ 53 :=
      lt_of_mul_lt_mul_right (hhigh.trans_le hm) (by positivity)
    exact_mod_cast hresidue.le.trans_lt hbelow
  · by_cases hmin : e + n = (-1074 : ℤ)
    · exact .inr hmin
    · left
      have hdigits : 2 ^ (52 + n) ≤ m := by
        have hlog : m.log2 = 52 + n := by omega
        rw [← hlog]
        refine Nat.log2_self_le fun hzero => ?_
        rw [hzero, Nat.log2_zero] at hlog
        omega
      have hm : (2 : ℝ) ^ 52 * 2 ^ n ≤ m := by
        rw [← pow_add]
        exact_mod_cast hdigits
      have habove : (2 : ℝ) ^ 52 ≤ x / 2 ^ (e + n) :=
        le_of_mul_le_mul_right (hm.trans hlow) (by positivity)
      exact Nat.lt_succ_iff.1 (by exact_mod_cast habove.trans_lt hresidue.lt)

namespace Shifted

variable {x b : ℝ} {em : ExtendedMantissa} {t : ℤ}

theorem le_self (h : Shifted x em t) : em.mantissa * 2 ^ t ≤ x :=
  (le_div_iff₀ (zpow_pos two_pos t)).1 h.residue.le

/-- A mark is a multiple of the last digit, or not above the numbers of 53 digits. -/
theorem mark_cases (h : Shifted x em t) (hmark : Mark b) (hb : 0 ≤ b) :
    (∃ c : ℕ, b = c * 2 ^ t) ∨ b ≤ 2 ^ 52 * 2 ^ t ∧ 2 ^ 52 ≤ em.mantissa := by
  obtain ⟨c, k, hc, hlow, -, rfl⟩ := hmark
  obtain ⟨c, rfl⟩ : ∃ n : ℕ, c = n :=
    Int.eq_ofNat_of_zero_le (Int.cast_nonneg_iff.1 (nonneg_of_mul_nonneg_left hb (zpow_pos two_pos k)))
  rcases le_or_gt t k with hle | hlt
  · obtain ⟨n, rfl⟩ : ∃ n : ℕ, k = t + n := ⟨(k - t).toNat, by omega⟩
    left
    refine ⟨c * 2 ^ n, ?_⟩
    rw [zpow_add₀ two_ne_zero, zpow_natCast]
    push_cast
    ring
  · right
    refine ⟨?_, h.wide.resolve_right (by have := h.low; omega)⟩
    have hc' : ((c : ℤ) : ℝ) ≤ 2 ^ 53 := by
      exact_mod_cast (le_abs_self _).trans hc.le
    calc ((c : ℤ) : ℝ) * 2 ^ k
        ≤ 2 ^ 53 * 2 ^ (t - 1) := by
          refine mul_le_mul hc' (zpow_le_zpow_right₀ one_le_two (by omega)) ?_ (by positivity)
          exact (zpow_pos two_pos k).le
      _ = 2 ^ 52 * 2 ^ t := by
          rw [zpow_sub_one₀ two_ne_zero]
          ring

theorem rounded_le (h : Shifted x em t) (hmark : Mark b) (hle : x ≤ b) (hx : 0 ≤ x) :
    em.roundedMantissa * 2 ^ t ≤ b := by
  have hpos : (0 : ℝ) < 2 ^ t := zpow_pos two_pos t
  rcases h.mark_cases hmark (hx.trans hle) with ⟨c, rfl⟩ | ⟨hsmall, hwide⟩
  · have hrounded := h.residue.rounded_le (c := c) ((div_le_iff₀ hpos).2 hle)
    exact mul_le_mul_of_nonneg_right (Nat.cast_le.2 hrounded) hpos.le
  · have hrounded := h.residue.rounded_le (c := 2 ^ 52)
      ((div_le_iff₀ hpos).2 (by exact_mod_cast hle.trans hsmall))
    calc (em.roundedMantissa : ℝ) * 2 ^ t
        ≤ em.mantissa * 2 ^ t := mul_le_mul_of_nonneg_right (Nat.cast_le.2 (hrounded.trans hwide)) hpos.le
      _ ≤ b := h.le_self.trans hle

theorem le_rounded (h : Shifted x em t) (hmark : Mark b) (hle : b ≤ x) :
    b ≤ em.roundedMantissa * 2 ^ t := by
  have hpos : (0 : ℝ) < 2 ^ t := zpow_pos two_pos t
  rcases le_total b 0 with hb | hb
  · exact hb.trans (by positivity)
  rcases h.mark_cases hmark hb with ⟨c, rfl⟩ | ⟨hsmall, hwide⟩
  · have hrounded := h.residue.le_rounded (c := c) ((le_div_iff₀ hpos).2 hle)
    exact mul_le_mul_of_nonneg_right (Nat.cast_le.2 hrounded) hpos.le
  · have hrounded : (2 ^ 52 : ℝ) ≤ em.roundedMantissa := by
      exact_mod_cast hwide.trans (Residue.le_roundedMantissa em)
    exact hsmall.trans (mul_le_mul_of_nonneg_right hrounded hpos.le)

end Shifted

/-! ## Finite doubles -/

/-- Parts that a finite double has. -/
def IsFormed : UnpackedFloat → Prop
  | .finite _ m e _ => m < 2 ^ 53 ∧ -1074 ≤ e ∧ e ≤ 971 ∧ (2 ^ 52 ≤ m ∨ e = -1074)
  | .zero _ => True
  | _ => False

theorem unpack_pack_narrow (s : Sign) {m : ℕ} (hpos : 0 < m) (hm : m < 2 ^ 52) :
    UnpackedFloat.unpack .binary64 (UnpackedFloat.pack .binary64 (.finite s m (-1074) hpos)) =
      .finite s m (-1074) hpos := by
  have hlog : m.log2 < 52 := (Nat.log2_lt hpos.ne').2 hm
  have hmantissa : (BitVec.ofNat 52 m).toNat = m := Nat.mod_eq_of_lt hm
  have hne : BitVec.ofNat 52 m ≠ 0#52 := by
    intro hzero
    rw [hzero] at hmantissa
    exact hpos.ne hmantissa
  have hsubnormal : ¬ m.log2 + 1 = Format.binary64.mantissaBits := by
    show ¬ m.log2 + 1 = 53
    omega
  have hpack : UnpackedFloat.pack .binary64 (.finite s m (-1074) hpos) =
      packComponents .binary64 s 0#11 (.ofNat 52 m) := by
    unfold UnpackedFloat.pack
    dsimp only
    rw [if_neg (by decide), if_neg hsubnormal]
  rw [hpack, UnpackedFloat.unpack]
  simp only [unpackMantissa_packComponents, unpackExponent_packComponents, Normal.ofBitVec_unpackSign]
  rw [if_neg (by decide), if_pos trivial, dif_neg hne]
  congr 1

theorem unpack_pack {p : UnpackedFloat} (h : IsFormed p) :
    UnpackedFloat.unpack .binary64 (UnpackedFloat.pack .binary64 p) = p := by
  match p with
  | .zero .positive => rfl
  | .zero .negative => rfl
  | .finite s m e hpos =>
      obtain ⟨hnarrow, hlow, hhigh, hwide⟩ := h
      by_cases hnormal : 2 ^ 52 ≤ m
      · exact (Normal.mk hnormal hnarrow hlow hhigh).unpack_packed s
      · obtain rfl := hwide.resolve_left hnormal
        exact unpack_pack_narrow s hpos (not_le.1 hnormal)

theorem between_of_isFormed {p : UnpackedFloat} {lo hi : ℝ} (h : IsFormed p) (hle : lo ≤ valueOf p)
    (hge : valueOf p ≤ hi) : Between lo hi (.ofModel (.pack p)) := by
  have hparts : (Float.ofModel (.pack p)).toModel.unpack = p := unpack_pack h
  refine ⟨?_, by rwa [number, hparts], by rwa [number, hparts]⟩
  show (Float.ofModel (.pack p)).toModel.unpack.isFinite = true
  rw [hparts]
  match p with
  | .zero _ => rfl
  | .finite _ _ _ _ => rfl

/-! ## Rounding -/

theorem shift_narrow {m : ℕ} {e : ℤ} (hm : m < 2 ^ 53) (he : -1074 ≤ e) :
    shiftToTargetExponent .binary64 m e .exact = (⟨m, false, false⟩, e) := by
  have hlog : m.log2 ≤ 52 := by
    rcases Nat.eq_zero_or_pos m with rfl | hpos
    · rw [Nat.log2_zero]
      omega
    · exact Nat.lt_succ_iff.1 ((Nat.log2_lt hpos.ne').2 hm)
  have hstay : (max ((m.log2 : ℤ) + e - 52) (-1074) - e).toNat = 0 := by omega
  unfold shiftToTargetExponent shiftToExponent
  rw [targetExponent_eq]
  dsimp only
  rw [hstay, Int.natCast_zero, add_zero]
  rfl

/-- A double is made of the mantissa that is rounded to, as long as it has an exponent. -/
theorem Shifted.formed {x : ℝ} {em : ExtendedMantissa} {t : ℤ} (h : Shifted x em t) (s : Sign) {m : ℕ}
    {e : ℤ} {a : Accuracy} (hshift : shiftToTargetExponent .binary64 m e a = (em, t))
    (hmax : (em.roundedMantissa : ℝ) * 2 ^ t < 2 ^ 1024) :
    IsFormed (roundWithAccuracy .binary64 s m e a) ∧
      valueOf (roundWithAccuracy .binary64 s m e a) = s.apply em.roundedMantissa * 2 ^ t := by
  have hlow := h.low
  have hround : roundWithAccuracy .binary64 s m e a =
      match shiftToTargetExponent .binary64 em.roundedMantissa t .exact with
      | (final, e) => if hzero : final.mantissa = 0 then UnpackedFloat.zero s
        else .finite s final.mantissa e (Nat.pos_of_ne_zero hzero) := by
    rw [roundWithAccuracy, hshift]
  have hle : em.roundedMantissa ≤ 2 ^ 53 := (Residue.roundedMantissa_le em).trans h.narrow
  have hexponent : ∀ {n : ℕ} {k : ℤ}, (2 : ℝ) ^ n * 2 ^ k < 2 ^ 1024 → n + k < 1024 := by
    intro n k hnk
    rw [← zpow_natCast, ← zpow_add₀ two_ne_zero, ← zpow_natCast, zpow_lt_zpow_iff_right₀ one_lt_two] at hnk
    exact_mod_cast hnk
  rw [hround]
  rcases hle.lt_or_eq with hlt | heq
  · rw [shift_narrow hlt hlow]
    dsimp only
    split
    · next hzero =>
        refine ⟨trivial, ?_⟩
        rw [hzero]
        cases s <;> simp [valueOf, Sign.apply]
    · next hzero =>
        have hwide := h.wide.imp_left fun hwide => hwide.trans (Residue.le_roundedMantissa em)
        refine ⟨⟨hlt, hlow, ?_, hwide⟩, rfl⟩
        rcases hwide with hwide | rfl
        · have hnormal : (2 : ℝ) ^ 52 * 2 ^ t < 2 ^ 1024 := by
            refine lt_of_le_of_lt (mul_le_mul_of_nonneg_right ?_ (zpow_pos two_pos t).le) hmax
            exact_mod_cast hwide
          have hsum := hexponent hnormal
          omega
        · decide
  · rw [heq, Nat.cast_pow] at hmax
    have hsum := hexponent hmax
    have hnormal : Normal (2 ^ 52) (t + 1) := ⟨le_rfl, by decide, by omega, by omega⟩
    have hagain := hnormal.shift_exact 1
    rw [Nat.cast_one, add_sub_cancel_right] at hagain
    rw [heq, show 2 ^ 53 = 2 ^ 52 * 2 ^ 1 from rfl, hagain]
    dsimp only
    rw [dif_neg (by decide)]
    refine ⟨⟨hnormal.narrow, hnormal.low, hnormal.high, .inl le_rfl⟩, ?_⟩
    rw [valueOf, zpow_add_one₀ two_ne_zero]
    cases s <;> simp only [Sign.apply] <;> push_cast <;> ring

/-- Rounding crosses no mark. -/
theorem rounds_roundWithAccuracy (s : Sign) {m : ℕ} {e : ℤ} {a : Accuracy} {x : ℝ} (hx : 0 ≤ x)
    (hwide : 52 ≤ m.log2 ∨ e ≤ -1074) (h : Residue (.ofMantissaAndAccuracy m a) (x / 2 ^ e)) :
    Rounds (.ofModel (.pack (roundWithAccuracy .binary64 s m e a))) (s.apply 1 * x) := by
  intro lo hi hlo hhi hle hge
  obtain ⟨em, t, hshift, hshifted⟩ := exists_shifted hwide h
  have hvalue : lo ≤ s.apply em.roundedMantissa * 2 ^ t ∧ s.apply em.roundedMantissa * 2 ^ t ≤ hi ∧
      (em.roundedMantissa : ℝ) * 2 ^ t < 2 ^ 1024 := by
    cases s with
    | positive =>
        simp only [Sign.apply, Int.cast_one, one_mul, Int.cast_natCast] at hle hge ⊢
        have hrounded := hshifted.rounded_le hhi hge hx
        exact ⟨hshifted.le_rounded hlo hle, hrounded, hrounded.trans_lt hhi.lt⟩
    | negative =>
        simp only [Sign.apply, Int.cast_neg, Int.cast_one, neg_mul, one_mul, Int.cast_natCast] at hle hge ⊢
        have hrounded := hshifted.rounded_le hlo.neg (le_neg.1 hle) hx
        have hother := hshifted.le_rounded hhi.neg (neg_le.1 hge)
        exact ⟨le_neg.1 hrounded, neg_le.1 hother, hrounded.trans_lt hlo.neg.lt⟩
  obtain ⟨hformed, heq⟩ := hshifted.formed s hshift hvalue.2.2
  exact between_of_isFormed hformed (heq ▸ hvalue.1) (heq ▸ hvalue.2.1)

end SiteTrial.Decimal
