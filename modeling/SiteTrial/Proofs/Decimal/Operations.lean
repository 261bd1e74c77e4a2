import SiteTrial.Proofs.Decimal.Finite
import SiteTrial.Proofs.Decimal.Order
import SiteTrial.Proofs.Decimal.Rounding

/-!
# Operations on doubles

What an operation makes of finite doubles is the number that it makes of theirs, rounded.

* `unpack_cases` : the parts of a finite double, as its bits say;
* `rounds_add`, `rounds_sub`, `rounds_mul`, `rounds_div`, `rounds_sqrt` : sums, differences, products,
  quotients and roots;
* `rounds_ofInt` : the doubles of integers;
* `Between.add`, `Between.sub`, `Between.mul`, `Between.div` : bounds of results from bounds of operands;
* `Positive.le_number` : the order of doubles is that of their numbers.
-/

namespace SiteTrial.Decimal

open Float.Model Float.Model.UnpackedFloat

/-! ## Parts -/

theorem toNat_unpackMantissa (b : BitVec 64) : (@unpackMantissa .binary64 b).toNat = b.toNat % 2 ^ 52 := by
  show (BitVec.extractLsb 51 0 b).toNat = _
  rw [BitVec.extractLsb_toNat, Nat.shiftRight_zero]

theorem isNegative_unpackSign (b : BitVec 64) :
    (Sign.ofBitVec (@unpackSign .binary64 b) == .negative) = (b.toNat / 2 ^ 63 == 1) := by
  have htoNat : (@unpackSign .binary64 b).toNat = b.toNat / 2 ^ 63 := by
    show (BitVec.extractLsb 63 63 b).toNat = _
    rw [BitVec.extractLsb_toNat, Nat.shiftRight_eq_div_pow]
    exact Nat.mod_eq_of_lt (by have := b.isLt; omega)
  rw [← htoNat]
  generalize @unpackSign .binary64 b = sign
  revert sign
  decide

/-- The three kinds of finite doubles, in terms of their bits: zeros, those of fewer digits, and those of
all digits. -/
theorem unpack_cases {x : Float} (h : x.isFinite = true) :
    x.toBits.toNat / 2 ^ 52 % 2 ^ 11 ≠ 2047 ∧ ∃ s : Sign, (s == .negative) = (x.toBits.toNat / 2 ^ 63 == 1) ∧
      ((x.toBits.toNat / 2 ^ 52 % 2 ^ 11 = 0 ∧ x.toBits.toNat % 2 ^ 52 = 0 ∧
          x.toModel.unpack = .zero s) ∨
        (x.toBits.toNat / 2 ^ 52 % 2 ^ 11 = 0 ∧ ∃ hf : 0 < x.toBits.toNat % 2 ^ 52,
          x.toModel.unpack = .finite s (x.toBits.toNat % 2 ^ 52) (-1074) hf) ∨
        (x.toBits.toNat / 2 ^ 52 % 2 ^ 11 ≠ 0 ∧ ∃ hf : 0 < x.toBits.toNat % 2 ^ 52 + 2 ^ 52,
          x.toModel.unpack = .finite s (x.toBits.toNat % 2 ^ 52 + 2 ^ 52)
            ((x.toBits.toNat / 2 ^ 52 % 2 ^ 11 : ℕ) - 1075) hf)) := by
  rw [isFinite_iff] at h
  refine ⟨h, Sign.ofBitVec (@unpackSign .binary64 x.toBits.toBitVec), isNegative_unpackSign _, ?_⟩
  have hexponent : (@unpackExponent .binary64 x.toBits.toBitVec).toNat =
    x.toBits.toNat / 2 ^ 52 % 2 ^ 11 := toNat_unpackExponent _
  have hmantissa : (@unpackMantissa .binary64 x.toBits.toBitVec).toNat = x.toBits.toNat % 2 ^ 52 :=
    toNat_unpackMantissa _
  have hunpack : x.toModel.unpack = UnpackedFloat.unpack .binary64 x.toBits.toBitVec := rfl
  have hmax : @unpackExponent .binary64 x.toBits.toBitVec ≠ -1#11 := by
    intro heq
    rw [heq] at hexponent
    exact h hexponent.symm
  rw [hunpack, ← hexponent, ← hmantissa]
  unfold UnpackedFloat.unpack
  dsimp only
  rw [if_neg hmax]
  by_cases hzero : @unpackExponent .binary64 x.toBits.toBitVec = 0#11
  · rw [if_pos hzero, hzero]
    by_cases hnone : @unpackMantissa .binary64 x.toBits.toBitVec = 0#52
    · rw [dif_pos hnone, hnone]
      exact .inl ⟨rfl, rfl, rfl⟩
    · rw [dif_neg hnone]
      have hpos : 0 < (@unpackMantissa .binary64 x.toBits.toBitVec).toNat :=
        Nat.pos_of_ne_zero fun heq => hnone (BitVec.eq_of_toNat_eq heq)
      exact .inr (.inl ⟨rfl, hpos, rfl⟩)
  · rw [if_neg hzero]
    have hfull : (1#1 ++ @unpackMantissa .binary64 x.toBits.toBitVec).toNat =
        (@unpackMantissa .binary64 x.toBits.toBitVec).toNat + 2 ^ 52 := by
      rw [BitVec.toNat_append, ← Nat.shiftLeft_add_eq_or_of_lt (BitVec.isLt _), Nat.add_comm]
      rfl
    refine .inr (.inr ⟨fun heq => hzero (BitVec.eq_of_toNat_eq heq), by omega, ?_⟩)
    simp only [hfull]
    rfl

theorem isFormed_unpack {x : Float} (h : x.isFinite = true) : IsFormed x.toModel.unpack := by
  obtain ⟨hmax, s, -, ⟨-, -, hparts⟩ | ⟨hzero, hf, hparts⟩ | ⟨hzero, hf, hparts⟩⟩ := unpack_cases h
  · rw [hparts]
    trivial
  · rw [hparts]
    exact ⟨by omega, by omega, by omega, .inr rfl⟩
  · rw [hparts]
    exact ⟨by omega, by omega, by omega, .inl (by omega)⟩

theorem rounds_of_isFormed {p : UnpackedFloat} {r : ℝ} (h : IsFormed p) (hr : valueOf p = r) :
    Rounds (.ofModel (.pack p)) r :=
  fun _ _ _ _ hle hge => between_of_isFormed h (hr ▸ hle) (hr ▸ hge)

theorem rounds_zero (s : Sign) : Rounds (.ofModel (.pack (.zero s))) 0 :=
  rounds_of_isFormed (p := .zero s) trivial rfl

theorem apply_eq (s : Sign) (n : ℤ) : s.apply n = s.apply 1 * n := by
  cases s
  · exact Int.neg_eq_neg_one_mul n
  · exact (Int.one_mul n).symm

theorem apply_neg (s : Sign) : (-s).apply 1 = -s.apply 1 := by
  cases s <;> rfl

theorem valueOf_zero (s : Sign) : valueOf (.zero s) = 0 := rfl

theorem valueOf_finite (s : Sign) (m : ℕ) (e : ℤ) (hm : 0 < m) :
    valueOf (.finite s m e hm) = s.apply 1 * (m * 2 ^ e) := by
  rw [valueOf, apply_eq, Int.cast_mul, Int.cast_natCast, mul_assoc]

theorem isFormed_neg {p : UnpackedFloat} (h : IsFormed p) : IsFormed p.neg :=
  match p with
  | .zero _ => trivial
  | .finite _ _ _ _ => h

theorem valueOf_neg (p : UnpackedFloat) : valueOf p.neg = -valueOf p := by
  match p with
  | .zero _ | .infinity _ | .notANumber => exact neg_zero.symm
  | .finite s m e hm =>
      rw [UnpackedFloat.neg, valueOf_finite, valueOf_finite, apply_neg, Int.cast_neg, neg_mul]

/-! ## Sums -/

theorem log2_shiftLeft {m : ℕ} (hm : 0 < m) (k : ℕ) : (m <<< k).log2 = m.log2 + k := by
  induction k with
  | zero => rfl
  | succ k ih => rw [Nat.shiftLeft_succ, Nat.log2_two_mul (Nat.shiftLeft_pos_iff.2 hm).ne', ih, Nat.add_assoc]

/-- Enough zeros are put behind a mantissa for it to be wide. -/
theorem rounds_round (s : Sign) {m : ℕ} (hm : 0 < m) (e : ℤ) :
    Rounds (.ofModel (.pack (UnpackedFloat.round .binary64 s m e))) (s.apply 1 * (m * 2 ^ e)) := by
  unfold UnpackedFloat.round
  rw [targetExponent_eq]
  unfold decreaseExponent
  dsimp only
  generalize hk : (e - max ((m.log2 : ℤ) + e - 52) (-1074)).toNat = k
  refine rounds_roundWithAccuracy s (by positivity) ?_ ?_
  · rw [log2_shiftLeft hm]
    omega
  · have hvalue : (m : ℝ) * 2 ^ e / 2 ^ (e - k) = (m <<< k : ℕ) := by
      rw [zpow_sub₀ two_ne_zero, zpow_natCast, Nat.shiftLeft_eq]
      have hpos : (2 : ℝ) ^ e ≠ 0 := (zpow_pos two_pos e).ne'
      push_cast
      field_simp
    rw [hvalue]
    exact Residue.ofExact _

theorem rounds_normalize (n e : ℤ) (s : Sign) :
    Rounds (.ofModel (.pack (UnpackedFloat.normalize .binary64 n e s))) (n * 2 ^ e) := by
  unfold UnpackedFloat.normalize
  rcases lt_trichotomy n 0 with hneg | rfl | hpos
  · rw [Int.compare_eq_lt.2 hneg]
    have hround := rounds_round .negative (m := (-n).toNat) (by omega) e
    have hcast : (((-n).toNat : ℤ) : ℝ) = -n := by
      rw [Int.toNat_of_nonneg (by omega), Int.cast_neg]
    rw [← Int.cast_natCast, hcast] at hround
    simpa [Sign.apply] using hround
  · rw [Int.compare_eq_eq.2 rfl, Int.cast_zero, zero_mul]
    exact rounds_zero s
  · rw [Int.compare_eq_gt.2 hpos]
    have hround := rounds_round .positive (m := n.toNat) (by omega) e
    rw [← Int.cast_natCast, Int.toNat_of_nonneg hpos.le] at hround
    simpa [Sign.apply] using hround

theorem decreaseExponent_value (s : Sign) (m : ℕ) {e f : ℤ} (h : f ≤ e) :
    (s.apply (decreaseExponent m e f).1 : ℝ) * 2 ^ f = s.apply m * 2 ^ e := by
  obtain ⟨k, rfl⟩ : ∃ k : ℕ, e = f + k := ⟨(e - f).toNat, by omega⟩
  unfold decreaseExponent
  dsimp only
  rw [add_sub_cancel_left, Int.toNat_natCast, Nat.shiftLeft_eq, zpow_add₀ two_ne_zero, zpow_natCast]
  cases s <;> simp only [Sign.apply] <;> push_cast <;> ring

theorem rounds_addParts {p q : UnpackedFloat} (hp : IsFormed p) (hq : IsFormed q) :
    Rounds (.ofModel (.pack (.add .binary64 p q))) (valueOf p + valueOf q) := by
  match p, q with
  | .zero s, .zero s' =>
      rw [valueOf_zero, valueOf_zero, add_zero]
      cases s <;> cases s' <;> exact rounds_zero _
  | .zero s, .finite s' m' e' hm' => exact rounds_of_isFormed hq (zero_add _).symm
  | .finite s m e hm, .zero s' => exact rounds_of_isFormed hp (add_zero _).symm
  | .finite s m e hm, .finite s' m' e' hm' =>
      have hsum := rounds_normalize (s.apply (decreaseExponent m e (min e e')).1 +
        s'.apply (decreaseExponent m' e' (min e e')).1) (min e e') .positive
      rw [Int.cast_add, add_mul, decreaseExponent_value s m (min_le_left e e'),
        decreaseExponent_value s' m' (min_le_right e e')] at hsum
      exact hsum

theorem sub_parts {p q : UnpackedFloat} (hp : IsFormed p) (hq : IsFormed q) :
    UnpackedFloat.sub .binary64 p q = UnpackedFloat.add .binary64 p q.neg := by
  match p, q with
  | .zero _, .zero _ | .zero _, .finite _ _ _ _ | .finite _ _ _ _, .zero _ => rfl
  | .finite s m e hm, .finite s' m' e' hm' =>
      cases s' with
      | positive => rfl
      | negative =>
          unfold UnpackedFloat.sub UnpackedFloat.add
          dsimp only [UnpackedFloat.neg]
          rw [show (-Sign.negative) = Sign.positive from rfl]
          simp only [Sign.apply, sub_neg_eq_add]

section

variable {x y : Float}

theorem rounds_add (hx : x.isFinite = true) (hy : y.isFinite = true) :
    Rounds (x + y) (number x + number y) := rounds_addParts (isFormed_unpack hx) (isFormed_unpack hy)

theorem rounds_sub (hx : x.isFinite = true) (hy : y.isFinite = true) :
    Rounds (x - y) (number x - number y) := by
  have hsum := rounds_addParts (isFormed_unpack hx) (isFormed_neg (isFormed_unpack hy))
  rw [valueOf_neg, ← sub_eq_add_neg, ← sub_parts (isFormed_unpack hx) (isFormed_unpack hy)] at hsum
  exact hsum

end

/-! ## Products and quotients -/

theorem apply_mul (s s' : Sign) : (s * s').apply 1 = s.apply 1 * s'.apply 1 := by
  cases s <;> cases s' <;> rfl

theorem rounds_mulParts {p q : UnpackedFloat} (hp : IsFormed p) (hq : IsFormed q) :
    Rounds (.ofModel (.pack (.mul .binary64 p q))) (valueOf p * valueOf q) := by
  match p, q with
  | .zero s, .zero s' | .zero s, .finite s' m' e' hm' =>
      rw [valueOf_zero, zero_mul]
      exact rounds_zero _
  | .finite s m e hm, .zero s' =>
      rw [valueOf_zero, mul_zero]
      exact rounds_zero _
  | .finite s m e hm, .finite s' m' e' hm' =>
      have hwide : 52 ≤ (m * m').log2 ∨ e + e' ≤ -1074 := by
        obtain ⟨-, -, -, hp⟩ := hp
        obtain ⟨-, -, -, hq⟩ := hq
        rw [Nat.le_log2 (Nat.mul_pos hm hm').ne']
        rcases hp with hp | hp
        · exact .inl (hp.trans (Nat.le_mul_of_pos_right m hm'))
        · rcases hq with hq | hq
          · exact .inl (hq.trans (Nat.le_mul_of_pos_left m' hm))
          · exact .inr (by omega)
      have hproduct := rounds_roundWithAccuracy (s * s') (a := .exact)
        (x := ((m * m' : ℕ) : ℝ) * 2 ^ (e + e')) (by positivity) hwide (by
          rw [mul_div_cancel_right₀ _ (zpow_pos two_pos _).ne']
          exact Residue.ofExact _)
      have hvalue : ((s * s').apply 1 : ℝ) * (((m * m' : ℕ) : ℝ) * 2 ^ (e + e')) =
          valueOf (.finite s m e hm) * valueOf (.finite s' m' e' hm') := by
        rw [valueOf_finite, valueOf_finite, zpow_add₀ two_ne_zero, apply_mul]
        push_cast
        ring
      rw [hvalue] at hproduct
      exact hproduct

theorem apply_div (s s' : Sign) : ((s / s').apply 1 : ℝ) = s.apply 1 / s'.apply 1 := by
  have hproduct : s / s' = s * s' := by cases s <;> cases s' <;> rfl
  have hunit : (s'.apply 1 : ℝ) = 1 / s'.apply 1 := by cases s' <;> norm_num [Sign.apply]
  rw [hproduct, apply_mul, Int.cast_mul, div_eq_mul_one_div, ← hunit]

theorem natCast_div_eq (n : ℕ) {d : ℕ} (hd : 0 < d) :
    (n : ℝ) / d = (n / d : ℕ) + ((n % d : ℕ) : ℝ) / d ∧ ((n % d : ℕ) : ℝ) / d < 1 := by
  have hd' : (0 : ℝ) < d := by exact_mod_cast hd
  have hsplit : (n : ℝ) = (n % d : ℕ) + d * (n / d : ℕ) := by
    exact_mod_cast (Nat.mod_add_div n d).symm
  constructor
  · rw [eq_comm, ← mul_right_inj' hd'.ne', mul_div_cancel₀ _ hd'.ne', mul_add, mul_div_cancel₀ _ hd'.ne']
    linarith
  · rw [div_lt_one hd']
    exact_mod_cast Nat.mod_lt n hd

/-- A quotient of natural numbers lies where its remainder says. -/
theorem Residue.ofFraction (n : ℕ) {d : ℕ} (hd : 0 < d) :
    Residue (.ofMantissaAndAccuracy (n / d) (accuracyOfFraction (n % d) d)) ((n : ℝ) / d) := by
  obtain ⟨hquotient, hrest⟩ := natCast_div_eq n hd
  rw [hquotient]
  unfold accuracyOfFraction
  split
  · next hzero =>
      rw [hzero, Nat.cast_zero, zero_div, add_zero]
      exact ofExact _
  · next hzero =>
      have hpos : 0 < ((n % d : ℕ) : ℝ) / d :=
        div_pos (by exact_mod_cast Nat.pos_of_ne_zero hzero) (by exact_mod_cast hd)
      exact ofInexact _ (by linarith) (by linarith)

/-- A quotient has 53 digits where the dividend has 53 more than the divisor. -/
theorem le_log2_div {n d : ℕ} (hn : n ≠ 0) (hd : 0 < d) (h : d.log2 + 53 ≤ n.log2) : 52 ≤ (n / d).log2 := by
  have hbig : 2 ^ 52 ≤ n / d := by
    rw [Nat.le_div_iff_mul_le hd]
    calc 2 ^ 52 * d ≤ 2 ^ 52 * 2 ^ (d.log2 + 1) := Nat.mul_le_mul_left _ Nat.lt_log2_self.le
      _ = 2 ^ (d.log2 + 53) := by rw [← Nat.pow_add]; congr 1; omega
      _ ≤ 2 ^ n.log2 := Nat.pow_le_pow_right two_pos h
      _ ≤ n := Nat.log2_self_le hn
  exact (Nat.le_log2 (Nat.ne_of_gt (lt_of_lt_of_le (by decide) hbig))).2 hbig

/-- The dividend is shifted until the quotient has the exponent that it is to have. -/
theorem quotient_scaled {m m' k : ℕ} {e e' t : ℤ} (hm' : 0 < m') (he : e = e' + t + k) :
    (m * 2 ^ e / (m' * 2 ^ e') : ℝ) / 2 ^ t = (m <<< k : ℕ) / m' := by
  have he' := (zpow_pos (two_pos (α := ℝ)) e').ne'
  have ht' := (zpow_pos (two_pos (α := ℝ)) t).ne'
  have hm'' : (m' : ℝ) ≠ 0 := by exact_mod_cast hm'.ne'
  rw [he, zpow_add₀ two_ne_zero, zpow_add₀ two_ne_zero, zpow_natCast, Nat.shiftLeft_eq]
  push_cast
  field_simp

theorem rounds_divParts {p q : UnpackedFloat} (hp : IsFormed p) (hq : IsFormed q) (hne : valueOf q ≠ 0) :
    Rounds (.ofModel (.pack (.div .binary64 p q))) (valueOf p / valueOf q) := by
  match p, q with
  | .zero s, .zero s' | .finite s m e hm, .zero s' => exact absurd (valueOf_zero s') hne
  | .zero s, .finite s' m' e' hm' =>
      rw [valueOf_zero, zero_div]
      exact rounds_zero _
  | .finite s m e hm, .finite s' m' e' hm' =>
      unfold UnpackedFloat.div divCore
      have htarget : Format.binary64.targetExponent (totalExponent m e - totalExponent m' e') =
          max ((m.log2 : ℤ) - m'.log2 + (e - e') - 53) (-1074) := by
        unfold Format.targetExponent totalExponent
        show max (_ - ((53 : ℕ) : ℤ)) (-1074) = _
        omega
      dsimp only
      rw [htarget]
      generalize ht : min (e - e') (max ((m.log2 : ℤ) - m'.log2 + (e - e') - 53) (-1074)) = t
      obtain ⟨k, hk⟩ : ∃ k : ℕ, e - e' - t = k := ⟨(e - e' - t).toNat, by omega⟩
      rw [hk, Int.toNat_natCast]
      have hwide : 52 ≤ (m <<< k / m').log2 ∨ t ≤ -1074 := by
        by_cases hlow : t ≤ -1074
        · exact .inr hlow
        · refine .inl (le_log2_div (Nat.shiftLeft_pos_iff.2 hm).ne' hm' ?_)
          rw [log2_shiftLeft hm]
          omega
      have hscaled := quotient_scaled (m := m) hm' (by omega : e = e' + t + k)
      have hquotient := rounds_roundWithAccuracy (s / s') (x := m * 2 ^ e / (m' * 2 ^ e'))
        (by positivity) hwide (hscaled ▸ Residue.ofFraction (m <<< k) hm')
      have hvalue : ((s / s').apply 1 : ℝ) * (m * 2 ^ e / (m' * 2 ^ e')) =
          valueOf (.finite s m e hm) / valueOf (.finite s' m' e' hm') := by
        rw [valueOf_finite, valueOf_finite, apply_div, div_mul_div_comm]
      rw [hvalue] at hquotient
      exact hquotient

section

variable {x y : Float}

theorem rounds_mul (hx : x.isFinite = true) (hy : y.isFinite = true) :
    Rounds (x * y) (number x * number y) := rounds_mulParts (isFormed_unpack hx) (isFormed_unpack hy)

theorem rounds_div (hx : x.isFinite = true) (hy : y.isFinite = true) (hne : number y ≠ 0) :
    Rounds (x / y) (number x / number y) :=
  rounds_divParts (isFormed_unpack hx) (isFormed_unpack hy) hne

end

/-! ## Roots -/

/-- A root lies where the rest of the whole root says. -/
theorem Residue.ofRoot (n : ℕ) (o : Ordering) :
    Residue (.ofMantissaAndAccuracy n.sqrt (if n - n.sqrt * n.sqrt = 0 then .exact else .inexact o))
      (Real.sqrt n) := by
  have hlow : ((n.sqrt * n.sqrt : ℕ) : ℝ) ≤ n := Nat.cast_le.2 n.sqrt_le
  have hhigh : Real.sqrt n < n.sqrt + 1 := by
    rw [Real.sqrt_lt' (by positivity), sq]
    exact_mod_cast n.lt_succ_sqrt
  split
  · next hzero =>
      have hsquare : (n : ℝ) = (n.sqrt : ℝ) ^ 2 := by
        have heq : n = n.sqrt * n.sqrt := by have := n.sqrt_le; omega
        rw [sq]
        exact_mod_cast heq
      rw [hsquare, Real.sqrt_sq (Nat.cast_nonneg _)]
      exact ofExact _
  · next hrest =>
      refine ofInexact _ ?_ hhigh
      rw [Real.lt_sqrt (Nat.cast_nonneg _), sq]
      have hlt : n.sqrt * n.sqrt < n := by have := n.sqrt_le; omega
      exact_mod_cast hlt

theorem le_log2_sqrt {n : ℕ} (hn : n ≠ 0) (h : 104 ≤ n.log2) : 52 ≤ n.sqrt.log2 := by
  have hbig : 2 ^ 52 ≤ n.sqrt := by
    by_contra hsmall
    have hsquare : (n.sqrt + 1) * (n.sqrt + 1) ≤ 2 ^ 52 * 2 ^ 52 := Nat.mul_le_mul (by omega) (by omega)
    have hlow : 2 ^ 104 ≤ n := (Nat.le_log2 hn).1 h
    have hhigh : n < (n.sqrt + 1) * (n.sqrt + 1) := n.lt_succ_sqrt
    omega
  exact (Nat.le_log2 (Nat.ne_of_gt (lt_of_lt_of_le (by decide) hbig))).2 hbig

theorem sqrt_scaled {m k : ℕ} {e t : ℤ} (he : e = k + 2 * t) :
    Real.sqrt (m * 2 ^ e) / 2 ^ t = Real.sqrt (m <<< k : ℕ) := by
  have hsplit : (m * 2 ^ e : ℝ) = (m <<< k : ℕ) * (2 ^ t) ^ 2 := by
    rw [he, zpow_add₀ two_ne_zero, zpow_natCast, mul_comm 2 t, zpow_mul, Nat.shiftLeft_eq, Nat.cast_mul,
      Nat.cast_pow, Nat.cast_ofNat, mul_assoc, zpow_ofNat]
  rw [hsplit, Real.sqrt_mul (Nat.cast_nonneg _), Real.sqrt_sq (zpow_pos two_pos t).le,
    mul_div_cancel_right₀ _ (zpow_pos two_pos t).ne']

theorem rounds_sqrtParts {p : UnpackedFloat} (hp : IsFormed p) (hnonneg : 0 ≤ valueOf p) :
    Rounds (.ofModel (.pack (.sqrt .binary64 p))) (Real.sqrt (valueOf p)) := by
  match p with
  | .zero s =>
      rw [valueOf_zero, Real.sqrt_zero]
      exact rounds_zero s
  | .finite .negative m e hm =>
      have hneg : valueOf (.finite .negative m e hm) < 0 := by
        rw [valueOf_finite]
        have hpos : (0 : ℝ) < m * 2 ^ e := mul_pos (by exact_mod_cast hm) (zpow_pos two_pos e)
        have hone : (Sign.negative.apply 1 : ℝ) = -1 := by norm_num [Sign.apply]
        rw [hone]
        linarith
      exact absurd hnonneg (not_le.2 hneg)
  | .finite .positive m e hm =>
      obtain ⟨-, hlow, hhigh, -⟩ := hp
      unfold UnpackedFloat.sqrt sqrtCore
      have htarget : Format.binary64.targetExponent ((totalExponent m e + 1).ediv 2) =
          max (((m.log2 : ℤ) + 2 + e) / 2 - 53) (-1074) := by
        unfold Format.targetExponent totalExponent
        show max (((m.log2 : ℤ) + 1 + e + 1) / 2 - ((53 : ℕ) : ℤ)) (-1074) = _
        omega
      dsimp only
      rw [htarget]
      generalize ht : min (e.ediv 2) (max (((m.log2 : ℤ) + 2 + e) / 2 - 53) (-1074)) = t
      change min (e / 2) _ = t at ht
      obtain ⟨k, hk⟩ : ∃ k : ℕ, e - 2 * t = k := ⟨(e - 2 * t).toNat, by omega⟩
      rw [hk, Int.toNat_natCast]
      have hwide : 52 ≤ (m <<< k).sqrt.log2 ∨ t ≤ -1074 := by
        refine .inl (le_log2_sqrt (Nat.shiftLeft_pos_iff.2 hm).ne' ?_)
        rw [log2_shiftLeft hm]
        omega
      have hone : (Sign.positive.apply 1 : ℝ) = 1 := Int.cast_one
      rw [valueOf_finite, hone, one_mul, ← one_mul (Real.sqrt _), ← hone]
      refine rounds_roundWithAccuracy .positive (Real.sqrt_nonneg _) hwide ?_
      rw [sqrt_scaled (by omega : e = k + 2 * t)]
      exact Residue.ofRoot _ _

theorem rounds_sqrt {x : Float} (hx : x.isFinite = true) (hnonneg : 0 ≤ number x) :
    Rounds x.sqrt (Real.sqrt (number x)) := rounds_sqrtParts (isFormed_unpack hx) hnonneg

/-! ## Integers -/

theorem Rounds.neg {x : Float} {r : ℝ} (h : Rounds x r) : Rounds x.neg (-r) := by
  intro lo hi hlo hhi hle hge
  obtain ⟨hfinite, hle, hge⟩ := h (-hi) (-lo) hhi.neg hlo.neg (by linarith) (by linarith)
  have hnumber := valueOf_neg x.toModel.unpack
  change _ = -number x at hnumber
  exact between_of_isFormed (isFormed_neg (isFormed_unpack hfinite)) (by linarith) (by linarith)

theorem rounds_ofNat (n : ℕ) : Rounds (Float.ofNat n) n := by
  show Rounds (Float.ofScientific n false 0) n
  unfold Float.ofScientific
  split
  · next hlt =>
      -- up to the width of a mantissa it is a product with one
      have hsmall : n.toUInt64.toNat = n := Nat.mod_eq_of_lt (by omega)
      have hself : Rounds n.toUInt64.toFloat n := by
        have hround := rounds_normalize n.toUInt64.toNat 0 .positive
        rw [hsmall, zpow_zero, mul_one, Int.cast_natCast] at hround
        show Rounds (.ofModel (.pack (.normalize .binary64 n.toUInt64.toNat 0 .positive))) n
        rwa [hsmall]
      obtain ⟨hfinite, hnumber⟩ := hself.exact (mark_natCast hlt.1.le)
      have hone : (Float.ofBits 0x3FF0000000000000).isFinite = true ∧
          number (Float.ofBits 0x3FF0000000000000) = 1 := by
        refine ⟨rfl, ?_⟩
        show valueOf (.finite .positive (2 ^ 52) (-52) (by decide)) = 1
        rw [valueOf_finite]
        norm_num [Sign.apply]
      have hproduct := rounds_mul hfinite hone.1
      rw [hnumber, hone.2, mul_one] at hproduct
      exact hproduct
  · next hge =>
      have hpos : n ≠ 0 := by
        rintro rfl
        exact hge ⟨by decide, by decide⟩
      have hwide : 52 ≤ (n <<< 53).log2 := by
        rw [log2_shiftLeft (Nat.pos_of_ne_zero hpos)]
        omega
      show Rounds (.ofModel (.pack (.ofScientific .binary64 n 0))) n
      have hsmall : ¬ (0 : ℤ) < -((2 ^ Format.binary64.exponentBits : ℤ) + n.log2) := by
        show ¬ (0 : ℤ) < -((2 ^ 11 : ℤ) + n.log2)
        omega
      have hsign : Sign.positive * Sign.positive = .positive := rfl
      rw [UnpackedFloat.ofScientific, dif_neg hpos, if_neg (by decide), if_neg hsmall, if_pos (by decide),
        Normal.mul_finite, hsign]
      have hone : (Sign.positive.apply 1 : ℝ) = 1 := Int.cast_one
      rw [← one_mul (n : ℝ), ← hone]
      refine rounds_roundWithAccuracy .positive (Nat.cast_nonneg n) (.inl ?_) ?_
      · rw [Int.toNat_zero, Nat.pow_zero, Nat.mul_one]
        exact hwide
      · rw [Int.toNat_zero, Nat.pow_zero, Nat.mul_one, add_zero]
        have hscaled : (n : ℝ) / 2 ^ (-(Format.binary64.mantissaBits : ℤ)) =
            (n <<< Format.binary64.mantissaBits : ℕ) := by
          rw [zpow_neg, div_inv_eq_mul, zpow_natCast, Nat.shiftLeft_eq]
          push_cast
          ring
        rw [hscaled]
        exact Residue.ofExact _

theorem rounds_ofInt (n : ℤ) : Rounds (Float.ofInt n) n := by
  cases n with
  | ofNat n => exact rounds_ofNat n
  | negSucc n =>
      rw [Int.cast_negSucc]
      exact (rounds_ofNat (n + 1)).neg

/-! ## Bounds -/

theorem mark_number {x : Float} (h : x.isFinite = true) : Mark (number x) := by
  have hformed := isFormed_unpack h
  unfold number
  generalize x.toModel.unpack = p at hformed
  match p with
  | .zero s => exact mark_zero
  | .finite s m e hm =>
      obtain ⟨hnarrow, hlow, hhigh, -⟩ := hformed
      refine ⟨s.apply m, e, ?_, hlow, hhigh, rfl⟩
      have habs : |s.apply (m : ℤ)| = m := by
        cases s
        · exact (abs_neg _).trans (Nat.abs_cast m)
        · exact Nat.abs_cast m
      rw [habs]
      exact_mod_cast hnarrow

theorem between_ofInt {n : ℤ} (h : Mark (n : ℝ)) : Between n n (Float.ofInt n) :=
  rounds_ofInt n n n h h le_rfl le_rfl

namespace Between

variable {x y : Float} {a b c d lo hi : ℝ}

theorem mono (h : Between a b x) (hlo : lo ≤ a) (hhi : b ≤ hi) : Between lo hi x :=
  ⟨h.finite, hlo.trans h.le, h.ge.trans hhi⟩

theorem add (hx : Between a b x) (hy : Between c d y) (hlo : Mark lo) (hhi : Mark hi) (hle : lo ≤ a + c)
    (hge : b + d ≤ hi) : Between lo hi (x + y) :=
  rounds_add hx.finite hy.finite lo hi hlo hhi (hle.trans (add_le_add hx.le hy.le))
    ((add_le_add hx.ge hy.ge).trans hge)

theorem sub (hx : Between a b x) (hy : Between c d y) (hlo : Mark lo) (hhi : Mark hi) (hle : lo ≤ a - d)
    (hge : b - c ≤ hi) : Between lo hi (x - y) :=
  rounds_sub hx.finite hy.finite lo hi hlo hhi (hle.trans (sub_le_sub hx.le hy.ge))
    ((sub_le_sub hx.ge hy.le).trans hge)

/-- The second factor is not below zero. -/
theorem mul (hx : Between (-a) a x) (hy : Between 0 b y) (ha : 0 ≤ a) (hhi : Mark hi) (hle : a * b ≤ hi) :
    Between (-hi) hi (x * y) := by
  have habs : |number x * number y| ≤ hi := by
    rw [abs_mul]
    refine le_trans (mul_le_mul (abs_le.2 ⟨hx.le, hx.ge⟩) ?_ (abs_nonneg _) ha) hle
    exact abs_le.2 ⟨by linarith [hy.le, hy.ge], hy.ge⟩
  exact rounds_mul hx.finite hy.finite _ _ hhi.neg hhi (abs_le.1 habs).1 (abs_le.1 habs).2

theorem mul_of_nonneg (hx : Between 0 a x) (hy : Between 0 b y) (hhi : Mark hi) (hle : a * b ≤ hi) :
    Between 0 hi (x * y) :=
  rounds_mul hx.finite hy.finite 0 hi mark_zero hhi (mul_nonneg hx.le hy.le)
    ((mul_le_mul hx.ge hy.ge hy.le (hx.le.trans hx.ge)).trans hle)

theorem square (hx : Between (-a) a x) (hhi : Mark hi) (hle : a * a ≤ hi) : Between 0 hi (x * x) := by
  refine rounds_mul hx.finite hx.finite 0 hi mark_zero hhi (mul_self_nonneg _) ?_
  rw [← abs_mul_abs_self]
  have habs := abs_le.2 ⟨hx.le, hx.ge⟩
  exact (mul_self_le_mul_self (abs_nonneg _) habs).trans hle

/-- The divisor is above zero. -/
theorem div (hx : Between (-a) a x) (hy : Between c d y) (hc : 0 < c) (hhi : Mark hi) (hle : a ≤ hi * c) :
    Between (-hi) hi (x / y) := by
  have hy' : 0 < number y := hc.trans_le hy.le
  have habs : |number x / number y| ≤ hi := by
    rw [abs_div, abs_of_pos hy', div_le_iff₀ hy']
    have hhi' : 0 ≤ hi := by
      have ha : 0 ≤ a := by linarith [hx.le, hx.ge]
      exact nonneg_of_mul_nonneg_left (ha.trans hle) hc
    calc |number x| ≤ a := abs_le.2 ⟨hx.le, hx.ge⟩
      _ ≤ hi * c := hle
      _ ≤ hi * number y := mul_le_mul_of_nonneg_left hy.le hhi'
  exact rounds_div hx.finite hy.finite hy'.ne' _ _ hhi.neg hhi (abs_le.1 habs).1 (abs_le.1 habs).2

theorem div_of_nonneg (hx : Between 0 a x) (hy : Between c d y) (hc : 0 < c) (hhi : Mark hi)
    (hle : a ≤ hi * c) : Between 0 hi (x / y) := by
  have hy' : 0 < number y := hc.trans_le hy.le
  refine rounds_div hx.finite hy.finite hy'.ne' 0 hi mark_zero hhi (div_nonneg hx.le hy'.le) ?_
  rw [div_le_iff₀ hy']
  have hhi' : 0 ≤ hi := nonneg_of_mul_nonneg_left ((hx.le.trans hx.ge).trans hle) hc
  exact (hx.ge.trans hle).trans (mul_le_mul_of_nonneg_left hy.le hhi')

theorem sqrt (hx : Between 0 a x) (hhi : Mark hi) (hnonneg : 0 ≤ hi) (hle : a ≤ hi ^ 2) :
    Between 0 hi x.sqrt := by
  refine rounds_sqrt hx.finite hx.le 0 hi mark_zero hhi (Real.sqrt_nonneg _) ?_
  exact (Real.sqrt_le_left hnonneg).2 (hx.ge.trans hle)

end Between

/-! ## Order -/

/-- The order of positive parts, by the exponent first and then by the mantissa, is that of their numbers:
the mantissa of a higher exponent has all digits. -/
theorem mul_two_pow_lt {m m' : ℕ} {e e' : ℤ} (hnarrow : m < 2 ^ 53) (hlow : -1074 ≤ e)
    (hwide : 2 ^ 52 ≤ m' ∨ e' = -1074) (hlt : (compare e e').then (compare m m') = .lt) :
    (m * 2 ^ e : ℝ) < m' * 2 ^ e' := by
  rcases lt_trichotomy e e' with hlt' | rfl | hgt
  · have hm' : (2 : ℝ) ^ 52 ≤ m' := by
      exact_mod_cast hwide.resolve_right (by omega)
    have hm : (m : ℝ) < 2 ^ 53 := by
      exact_mod_cast hnarrow
    calc (m : ℝ) * 2 ^ e < 2 ^ 53 * 2 ^ e := mul_lt_mul_of_pos_right hm (zpow_pos two_pos e)
      _ = 2 ^ 52 * 2 ^ (e + 1) := by rw [zpow_add_one₀ two_ne_zero]; ring
      _ ≤ 2 ^ 52 * 2 ^ e' :=
        mul_le_mul_of_nonneg_left (zpow_le_zpow_right₀ one_le_two hlt') (by positivity)
      _ ≤ m' * 2 ^ e' := mul_le_mul_of_nonneg_right hm' (zpow_pos two_pos e').le
  · rw [compare_eq_iff_eq.2 rfl, Ordering.eq_then, compare_lt_iff_lt] at hlt
    exact mul_lt_mul_of_pos_right (Nat.cast_lt.2 hlt) (zpow_pos two_pos e)
  · rw [compare_gt_iff_gt.2 hgt] at hlt
    cases hlt

theorem mul_two_pow_le {m m' : ℕ} {e e' : ℤ} (hnarrow : m < 2 ^ 53) (hlow : -1074 ≤ e)
    (hwide : 2 ^ 52 ≤ m' ∨ e' = -1074) (hle : ((compare e e').then (compare m m')).isLE = true) :
    (m * 2 ^ e : ℝ) ≤ m' * 2 ^ e' := by
  cases hcompare : (compare e e').then (compare m m') with
  | lt => exact (mul_two_pow_lt hnarrow hlow hwide hcompare).le
  | eq =>
      obtain ⟨he, hm⟩ := Ordering.then_eq_eq.1 hcompare
      rw [compare_eq_iff_eq.1 he, compare_eq_iff_eq.1 hm]
  | gt =>
      rw [hcompare] at hle
      cases hle

/-- What is not above a finite double is finite, and its number is not above that of the double. -/
theorem Positive.le_number {x y : Float} (hx : Positive x) (hy : y.isFinite = true) (h : x ≤ y) :
    x.isFinite = true ∧ number x ≤ number y := by
  have hcompare : (x.toModel.unpack.compare y.toModel.unpack).any (·.isLE) = true := by
    change decide (x.toModel ≤ y.toModel) = true at h
    exact of_decide_eq_true h
  have hformed := isFormed_unpack hy
  rcases hx.parts with hparts | ⟨m, e, hm, hparts⟩
  · rw [hparts] at hcompare
    generalize y.toModel.unpack = q at *
    match q with
    | .zero s => cases hcompare
    | .finite s m e hm => cases hcompare
  · have hfinite : x.isFinite = true := by
      show x.toModel.unpack.isFinite = true
      rw [hparts]
      rfl
    refine ⟨hfinite, ?_⟩
    have hself := isFormed_unpack hfinite
    unfold number
    rw [hparts] at hself hcompare ⊢
    generalize y.toModel.unpack = q at *
    match q with
    | .zero s => cases hcompare
    | .finite .negative m' e' hm' => cases hcompare
    | .finite .positive m' e' hm' =>
        obtain ⟨hnarrow, hlow, -, -⟩ := hself
        obtain ⟨-, -, -, hwide⟩ := hformed
        have hle : ((compare e e').then (compare m m')).isLE = true := hcompare
        have hone : (Sign.positive.apply 1 : ℝ) = 1 := Int.cast_one
        rw [valueOf_finite, valueOf_finite, hone, one_mul, one_mul]
        exact mul_two_pow_le hnarrow hlow hwide hle

end SiteTrial.Decimal
