import SiteTrial.Proofs.Decimal.Operations
import SiteTrial.Proofs.Decimal.Order
import SiteTrial.Proofs.Decimal.Sign
import SiteTrial.Proofs.Value.Range
import SiteTrial.Statistics.Summary

/-!
# Statistics on doubles

* `exists_floor` : the integer below a finite double;
* `HasHundredfold`, `exists_round2_iff` : which doubles can be rounded to two decimals;
* `root_of_isUpright` : no root is taken of a double without a minus sign in vain, and statistics make no
  other ones.
-/

namespace SiteTrial

open Arithmetic Decimal

variable {x y : Float}

/-! ## Integers -/

theorem exists_parts (h : x.isFinite = true) : ∃ negative m q,
    Binary.ofFloat x = .finite negative m q ∧
      number x = if negative then -(m * 2 ^ q : ℝ) else m * 2 ^ q := by
  have hvalue : ∀ (s : Float.Model.UnpackedFloat.Sign) (m : ℕ) (q : ℤ), (s.apply m * 2 ^ q : ℝ) =
      if s == .negative then -(m * 2 ^ q : ℝ) else m * 2 ^ q := by
    intro s m q
    cases s <;> simp [Float.Model.UnpackedFloat.Sign.apply]
  obtain ⟨hmax, s, hsign, hparts⟩ := unpack_cases h
  unfold Binary.ofFloat number
  simp only [Nat.pow_eq]
  rw [if_neg hmax, ← hsign]
  obtain ⟨hzero, hnone, hparts⟩ | ⟨hzero, hf, hparts⟩ | ⟨hzero, hf, hparts⟩ := hparts
  · rw [if_pos hzero, hparts, hnone]
    refine ⟨_, _, _, rfl, ?_⟩
    rw [Nat.cast_zero, zero_mul, neg_zero, ite_self]
    rfl
  · rw [if_pos hzero, hparts]
    exact ⟨_, _, _, rfl, hvalue s _ _⟩
  · rw [if_neg hzero, hparts]
    exact ⟨_, _, _, rfl, hvalue s _ _⟩

theorem fraction_eq (m : ℕ) (q : ℤ) : 0 < (Binary.fraction m q).2 ∧
    ((Binary.fraction m q).1 / (Binary.fraction m q).2 : ℝ) = m * 2 ^ q := by
  unfold Binary.fraction
  split
  · next hq =>
      obtain ⟨n, rfl⟩ := Int.eq_ofNat_of_zero_le hq
      refine ⟨one_pos, ?_⟩
      simp
  · next hq =>
      obtain ⟨n, hn⟩ := Int.eq_ofNat_of_zero_le (a := -q) (by omega)
      refine ⟨Nat.two_pow_pos _, ?_⟩
      rw [hn, Int.toNat_natCast, ← neg_neg q, hn, zpow_neg, zpow_natCast]
      simp [div_eq_mul_inv]

theorem floor_apply (negative : Bool) (num : ℕ) {den : ℕ} (hden : 0 < den) :
    (Binary.Rounding.floor.apply negative num den : ℝ) ≤ (if negative then -(num / den : ℝ) else num / den) ∧
      (if negative then -(num / den : ℝ) else num / den) <
        (Binary.Rounding.floor.apply negative num den : ℝ) + 1 := by
  obtain ⟨hquotient, hrest⟩ := natCast_div_eq num hden
  have hnonneg : 0 ≤ ((num % den : ℕ) : ℝ) / den := by positivity
  unfold Binary.Rounding.apply
  rw [hquotient]
  cases negative with
  | false =>
      simp only [Bool.false_eq_true, if_false, Int.cast_natCast]
      constructor <;> linarith
  | true =>
      simp only [if_true, Int.cast_neg, Int.cast_natCast]
      split
      · next hzero =>
          rw [hzero, Nat.cast_zero, zero_div]
          constructor <;> linarith
      · next hzero =>
          have hpos : 0 < ((num % den : ℕ) : ℝ) / den :=
            div_pos (by exact_mod_cast Nat.pos_of_ne_zero hzero) (by exact_mod_cast hden)
          push_cast
          constructor <;> linarith

theorem nonneg_of_lt_add_one {n : ℤ} {r : ℝ} (hr : 0 ≤ r) (h : r < n + 1) : 0 ≤ n := by
  have hlt : (0 : ℝ) < (n + 1 : ℤ) := by
    push_cast
    exact hr.trans_lt h
  exact Int.lt_add_one_iff.1 (Int.cast_pos.1 hlt)

theorem exists_floor (h : x.isFinite = true) :
    ∃ n : ℤ, floor x = .ok n ∧ n ≤ number x ∧ number x < n + 1 := by
  obtain ⟨negative, m, q, hparts, hnumber⟩ := exists_parts h
  obtain ⟨hden, hfraction⟩ := fraction_eq m q
  refine ⟨Binary.Rounding.floor.apply negative (Binary.fraction m q).1 (Binary.fraction m q).2, ?_, ?_⟩
  · show integerOf .floor x = _
    unfold integerOf
    rw [hparts]
  · rw [hnumber, ← hfraction]
    exact floor_apply negative _ hden

/-! ## Two decimals -/

/-- The hundredfold of a double is finite, with the half that is added for rounding. -/
def HasHundredfold (x : Float) : Prop := (x * ofInt 100 + decimal 5 1).isFinite = true

theorem exists_round2_iff : (∃ y, round2 x = .ok y) ↔ HasHundredfold x := by
  unfold round2 HasHundredfold
  constructor
  · rintro ⟨y, hy⟩
    obtain ⟨n, hn, -⟩ := exists_of_bind hy
    by_contra hinfinite
    obtain ⟨f, hf⟩ := integerOf_eq_error_iff (r := .floor).2 (Bool.eq_false_of_not_eq_true hinfinite)
    cases hf.symm.trans hn
  · intro hfinite
    obtain ⟨n, hn, -⟩ := exists_floor hfinite
    rw [hn]
    exact ⟨_, rfl⟩

theorem exists_of_round2 (h : round2 x = .ok y) :
    ∃ n : ℤ, n ≤ number (x * ofInt 100 + decimal 5 1) ∧ number (x * ofInt 100 + decimal 5 1) < n + 1 ∧
      y = ofInt n / ofInt 100 := by
  obtain ⟨n, hn, hlow, hhigh⟩ := exists_floor (exists_round2_iff.1 ⟨y, h⟩)
  unfold round2 at h
  rw [hn] at h
  exact ⟨n, hlow, hhigh, (Except.ok.inj h).symm⟩

/-! ## Doubles without a minus sign -/

theorem number_nonneg (h : IsUpright x) : 0 ≤ number x := by
  unfold IsUpright at h
  unfold number
  generalize x.toModel.unpack = p at h
  match p with
  | .notANumber | .infinity _ | .zero _ => exact le_rfl
  | .finite s m e hm =>
      obtain rfl : s = .positive := h
      rw [valueOf_finite]
      have hone : (Float.Model.UnpackedFloat.Sign.positive.apply 1 : ℝ) = 1 := Int.cast_one
      rw [hone]
      positivity

theorem isUpright_natCast (n : ℕ) : IsUpright (ofInt n) := isUpright_ofInt (Int.natCast_nonneg n)

theorem half_parts : (decimal 5 1 : Float).toModel.unpack = .finite .positive (2 ^ 52) (-53) (by decide) := by
  rfl

theorem isUpright_half : IsUpright (decimal 5 1) := by
  unfold IsUpright
  rw [half_parts]
  rfl

theorem isUpright_round2 (hx : IsUpright x) (h : round2 x = .ok y) : IsUpright y := by
  obtain ⟨n, -, hhigh, rfl⟩ := exists_of_round2 h
  have hnonneg := number_nonneg ((hx.mul (isUpright_natCast 100)).add isUpright_half)
  exact (isUpright_ofInt (nonneg_of_lt_add_one hnonneg hhigh)).div (isUpright_natCast 100)

theorem isUpright_of_positive (h : Positive x) : IsUpright x := by
  unfold IsUpright
  rcases h.parts with hx | ⟨m, e, hm, hx⟩
  · rw [hx]
    rfl
  · rw [hx]
    rfl

/-- What is above zero is bounded by what it is not above. -/
theorem between_of_le {b : ℝ} (hx : Positive x) (hy : Between 0 b y) (h : x ≤ y) : Between 0 b x := by
  obtain ⟨hfinite, hnumber⟩ := hx.le_number hy.finite h
  exact ⟨hfinite, number_nonneg (isUpright_of_positive hx), hnumber.trans hy.ge⟩

theorem isUpright_secondPower (x : Float) : IsUpright (secondPower x) := by
  unfold secondPower
  dsimp only
  split
  · next hpower =>
      rw [Bool.and_eq_true, decide_eq_true_iff] at hpower
      exact isUpright_of_positive hpower.1
  · exact isUpright_square x

theorem eq_of_square (h : square x = .ok y) : y = secondPower x := by
  change squareOf x = .ok y at h
  unfold squareOf at h
  dsimp only at h
  split at h
  · cases h
  · exact (Except.ok.inj h).symm

theorem isUpright_total {vs : List Float} (h : ∀ v ∈ vs, IsUpright v) : IsUpright (total vs) := by
  have hfold : ∀ (vs : List Float) (sum : Float), IsUpright sum → (∀ v ∈ vs, IsUpright v) →
      IsUpright (vs.foldl (· + ·) sum) := by
    intro vs
    induction vs with
    | nil => exact fun _ hsum _ => hsum
    | cons v vs ih =>
        intro sum hsum hvs
        rw [List.forall_mem_cons] at hvs
        exact ih _ (hsum.add hvs.1) hvs.2
  exact hfold vs _ (isUpright_natCast 0) h

/-- A mean of squares has no minus sign, whatever the values are. -/
theorem isUpright_varianceAround {mean v : Float} {vs : List Float} (h : varianceAround mean vs = .ok v) :
    IsUpright v := by
  unfold varianceAround at h
  obtain ⟨squares, hsquares, h⟩ := exists_of_bind h
  cases h
  refine (isUpright_total fun s hs => ?_).div (isUpright_natCast _)
  obtain ⟨w, -, hw⟩ := exists_of_mem_mapM hsquares hs
  rw [eq_of_square hw]
  exact isUpright_secondPower _

theorem root_of_isUpright (h : IsUpright x) : root x = .ok x.sqrt := if_neg (not_lt_zero_of_upright h)

end SiteTrial
