import Mathlib
import SiteTrial.Decimal.Binary

/-!
# Doubles of full width

A normal double is a mantissa of 53 digits with a sign and a power of two. Nothing is rounded where one
is packed, taken apart again, or made of a natural number that it stands for.

* `Normal`, `Normal.packed` : what makes a normal double, and the double;
* `Normal.ofFloat_packed` : its parts are those it was made of;
* `Normal.ofNat_eq` : the double of a natural number that has such parts.
-/

namespace SiteTrial.Decimal

open Float.Model Float.Model.UnpackedFloat

/-- The mantissa and the exponent of a double of full width. -/
structure Normal (m : Nat) (e : Int) : Prop where
  wide : 2 ^ 52 ≤ m
  narrow : m < 2 ^ 53
  low : -1074 ≤ e
  high : e ≤ 971

namespace Normal

variable {m : Nat} {e : Int}

theorem pos (h : Normal m e) : 0 < m := Nat.lt_of_lt_of_le (by decide) h.wide

theorem log2_scaled (h : Normal m e) (k : Nat) : (m * 2 ^ k).log2 = 52 + k := by
  rw [Nat.log2_eq_iff (Nat.ne_of_gt (Nat.mul_pos h.pos (Nat.two_pow_pos k)))]
  constructor
  · rw [Nat.pow_add]
    exact Nat.mul_le_mul_right _ h.wide
  · rw [Nat.add_right_comm, Nat.pow_add]
    exact Nat.mul_lt_mul_of_pos_right h.narrow (Nat.two_pow_pos k)

theorem log2_eq (h : Normal m e) : m.log2 = 52 := by
  have hscaled := h.log2_scaled 0
  rwa [Nat.pow_zero, Nat.mul_one] at hscaled

/-- The parts of the double. -/
def parts (h : Normal m e) (s : Sign) : UnpackedFloat := .finite s m e h.pos

/-- The double of a sign, a mantissa and an exponent. -/
def packed (h : Normal m e) (s : Sign) : Float := .ofModel (.pack (h.parts s))

/-! ## Packing -/

theorem pack_parts (h : Normal m e) (s : Sign) :
    UnpackedFloat.pack .binary64 (h.parts s) =
      packComponents .binary64 s (.ofNat 11 (e + 1075).toNat) (.ofNat 52 m) := by
  have hlow := h.low
  have hhigh := h.high
  have hbiased : (e + Format.binary64.exponentBias +
      Format.binary64.mantissaBitsWithoutImplicit).toNat = (e + 1075).toNat := by
    show (e + (1023 : Nat) + (52 : Nat)).toNat = _
    omega
  have hfits : ¬ 2 ^ Format.binary64.exponentBits ≤ (e + 1075).toNat + 1 := by
    show ¬ 2 ^ 11 ≤ _
    omega
  rw [parts, UnpackedFloat.pack]
  dsimp only
  rw [hbiased, if_neg hfits, h.log2_eq]
  rfl

theorem toNat_exponent (h : Normal m e) :
    (BitVec.ofNat 11 (e + 1075).toNat).toNat = (e + 1075).toNat := by
  have hhigh := h.high
  rw [BitVec.toNat_ofNat, Nat.mod_eq_of_lt (by omega)]

theorem toNat_mantissa (h : Normal m e) : (BitVec.ofNat 52 m).toNat = m - 2 ^ 52 := by
  have hwide := h.wide
  have hnarrow := h.narrow
  rw [BitVec.toNat_ofNat]
  omega

theorem ofBitVec_unpackSign (s : Sign) (e : BitVec 11) (m : BitVec 52) :
    Sign.ofBitVec (unpackSign (packComponents .binary64 s e m)) = s := by
  have hsign : unpackSign (packComponents .binary64 s e m) = s.toBitVec := by
    show (s.toBitVec ++ e ++ m).extractLsb' 63 1 = _
    rw [BitVec.extractLsb'_append_eq_of_le (by decide), BitVec.extractLsb'_append_eq_of_le (by decide)]
    cases s <;> rfl
  rw [hsign]
  cases s <;> rfl

theorem unpack_packed (h : Normal m e) (s : Sign) : (h.packed s).toModel.unpack = h.parts s := by
  have hlow := h.low
  have hhigh := h.high
  have hwide := h.wide
  have hexponent := h.toNat_exponent
  have hmantissa := h.toNat_mantissa
  have hmax : BitVec.ofNat 11 (e + 1075).toNat ≠ -1#11 := by
    intro heq
    rw [heq] at hexponent
    change 2047 = _ at hexponent
    omega
  have hzero : BitVec.ofNat 11 (e + 1075).toNat ≠ 0#11 := by
    intro heq
    rw [heq] at hexponent
    change 0 = _ at hexponent
    omega
  show UnpackedFloat.unpack .binary64 (UnpackedFloat.pack .binary64 (h.parts s)) = _
  rw [h.pack_parts, UnpackedFloat.unpack]
  simp only [unpackMantissa_packComponents, unpackExponent_packComponents, ofBitVec_unpackSign]
  rw [if_neg hmax, if_neg hzero, parts]
  congr 1
  · rw [BitVec.toNat_append, hmantissa, ← Nat.shiftLeft_add_eq_or_of_lt (by have := h.narrow; omega)]
    show 1 <<< 52 + _ = _
    omega
  · rw [hexponent]
    show ((e + 1075).toNat : Int) - ((1023 : Nat) + (52 : Nat)) = e
    omega

theorem toBits_packed (h : Normal m e) (s : Sign) :
    (h.packed s).toBits.toNat =
      s.toBitVec.toNat * 2 ^ 63 + (e + 1075).toNat * 2 ^ 52 + (m - 2 ^ 52) := by
  have hhigh := h.high
  have hnarrow := h.narrow
  show (UnpackedFloat.pack .binary64 (h.parts s)).toNat = _
  rw [h.pack_parts, packComponents, BitVec.toNat_append, BitVec.toNat_append, h.toNat_exponent,
    h.toNat_mantissa, ← Nat.shiftLeft_add_eq_or_of_lt (by omega),
    ← Nat.shiftLeft_add_eq_or_of_lt (by omega), Nat.shiftLeft_eq, Nat.shiftLeft_eq]
  show (s.toBitVec.toNat * 2 ^ 11 + _) * 2 ^ 52 + _ = _
  omega

/-- The parts of a normal double are those it was made of. -/
theorem ofFloat_packed (h : Normal m e) (s : Sign) :
    Binary.ofFloat (h.packed s) = .finite (s == .negative) m e := by
  have hlow := h.low
  have hhigh := h.high
  have hwide := h.wide
  have hnarrow := h.narrow
  have hbits := h.toBits_packed s
  unfold Binary.ofFloat
  simp only [Nat.pow_eq]
  generalize (h.packed s).toBits.toNat = bits at hbits
  have hbit : s.toBitVec.toNat < 2 := s.toBitVec.isLt
  have hsign : bits / 2 ^ 63 = s.toBitVec.toNat := by omega
  have hexponent : bits / 2 ^ 52 % 2 ^ 11 = (e + 1075).toNat := by omega
  have hfraction : bits % 2 ^ 52 = m - 2 ^ 52 := by omega
  rw [hsign, hexponent, hfraction, if_neg (by omega), if_neg (by omega)]
  congr 1
  · cases s <;> rfl
  · omega
  · omega

theorem isFinite_packed (h : Normal m e) (s : Sign) : (h.packed s).isFinite = true := by
  show (h.packed s).toModel.unpack.isFinite = true
  rw [h.unpack_packed]
  rfl

theorem neg_packed (h : Normal m e) : (h.packed .positive).neg = h.packed .negative := by
  show Float.ofModel (.pack (h.packed .positive).toModel.unpack.neg) = _
  rw [h.unpack_packed]
  rfl

/-! ## Rounding -/

theorem shiftRight_exact (m k : Nat) :
    ExtendedMantissa.mk (m * 2 ^ k) false false >>> k = ⟨m, false, false⟩ := by
  induction k generalizing m with
  | zero => rw [Nat.pow_zero, Nat.mul_one]; rfl
  | succ k ih =>
      show ExtendedMantissa.shiftRightOne (ExtendedMantissa.mk (m * 2 ^ (k + 1)) false false >>> k) = _
      rw [Nat.pow_succ', ← Nat.mul_assoc, ih, ExtendedMantissa.shiftRightOne]
      simp

/-- A mantissa with zeros behind it is shifted until it has its width. -/
theorem shift_exact (h : Normal m e) (k : Nat) :
    shiftToTargetExponent .binary64 (m * 2 ^ k) (e - k) .exact = (⟨m, false, false⟩, e) := by
  have hlow := h.low
  have htarget : Format.binary64.targetExponent (totalExponent (m * 2 ^ k) (e - k)) = e := by
    rw [totalExponent, h.log2_scaled, Format.targetExponent]
    show max (((52 + k : Nat) : Int) + 1 + (e - k) - (53 : Nat)) (-1074) = e
    omega
  have hamount : (e - (e - (k : Int))).toNat = k := by omega
  rw [shiftToTargetExponent, htarget, shiftToExponent, hamount]
  show (ExtendedMantissa.mk (m * 2 ^ k) false false >>> k, e - (k : Int) + k) = _
  rw [shiftRight_exact, Int.sub_add_cancel]

/-- Where there is nothing to round, rounding gives the parts. -/
theorem round_exact (h : Normal m e) (s : Sign) {n k : Nat} {q : Int} (hn : n = m * 2 ^ k)
    (hq : q = e - k) : roundWithAccuracy .binary64 s n q .exact = h.parts s := by
  have hagain := h.shift_exact 0
  rw [Nat.pow_zero, Nat.mul_one, Int.natCast_zero, Int.sub_zero] at hagain
  subst hn hq
  rw [roundWithAccuracy, h.shift_exact k]
  show (match shiftToTargetExponent .binary64 m e .exact with
    | (final, e) => if hzero : final.mantissa = 0 then UnpackedFloat.zero s
      else .finite s final.mantissa e (Nat.pos_of_ne_zero hzero)) = _
  rw [hagain]
  exact dif_neg (Nat.ne_of_gt h.pos)

/-! ## Natural numbers -/

variable {n : Nat}

/-- How many digits a natural number with such parts has. -/
theorem log2_of_eq (h : Normal m e) (hn : n * 2 ^ 52 = m * 2 ^ (e + 52).toNat) :
    n ≠ 0 ∧ n.log2 = (e + 52).toNat := by
  have hne : n ≠ 0 := by
    rintro rfl
    have hpos := Nat.mul_pos h.pos (Nat.two_pow_pos (e + 52).toNat)
    omega
  have hlow := Nat.log2_self_le hne
  have hhigh := Nat.lt_log2_self (n := n)
  have hscaled : (n * 2 ^ 52).log2 = n.log2 + 52 := by
    rw [Nat.log2_eq_iff (by omega)]
    rw [Nat.pow_add, Nat.add_right_comm, Nat.pow_add]
    omega
  rw [hn, h.log2_scaled] at hscaled
  exact ⟨hne, by omega⟩

/-- A natural number up to the width of a mantissa is a double. -/
theorem toFloat_eq (h : Normal m e) (hlt : n < 2 ^ 53) (he : -52 ≤ e)
    (hn : n * 2 ^ 52 = m * 2 ^ (e + 52).toNat) : n.toUInt64.toFloat = h.packed .positive := by
  obtain ⟨hne, hlog⟩ := h.log2_of_eq hn
  have hle : n.log2 < 53 := (Nat.log2_lt hne).2 hlt
  have htarget : Format.binary64.targetExponent (totalExponent n 0) = e := by
    rw [totalExponent, hlog, Format.targetExponent]
    show max ((((e + 52).toNat : Nat) : Int) + 1 + 0 - (53 : Nat)) (-1074) = e
    omega
  have hshift : n <<< (0 - e).toNat = m := by
    have hsum : 52 = (0 - e).toNat + (e + 52).toNat := by omega
    rw [hsum, Nat.pow_add, ← Nat.mul_assoc] at hn
    rw [Nat.shiftLeft_eq]
    exact Nat.eq_of_mul_eq_mul_right (Nat.two_pow_pos _) (by omega)
  have hround : UnpackedFloat.round .binary64 .positive n 0 = h.parts .positive := by
    rw [UnpackedFloat.round, htarget, decreaseExponent]
    show roundWithAccuracy .binary64 .positive (n <<< (0 - e).toNat) _ .exact = _
    rw [hshift]
    refine h.round_exact .positive (k := 0) (by omega) (by omega)
  have hsign : compare (n : Int) 0 = .gt := by
    rw [Int.compare_eq_gt]
    omega
  have hsmall : n.toUInt64.toNat = n := Nat.mod_eq_of_lt (by omega)
  show Float.ofModel (.pack (normalize .binary64 n.toUInt64.toNat 0 .positive)) = _
  rw [hsmall, UnpackedFloat.normalize, hsign]
  exact congrArg (fun parts => Float.ofModel (.pack parts)) hround

/-- The product with one is the double itself. -/
theorem mul_one (h : Normal m e) (s : Sign) :
    h.packed s * .ofBits 0x3FF0000000000000 = h.packed s := by
  have hone : (Float.ofBits 0x3FF0000000000000).toModel.unpack =
      .finite .positive (2 ^ 52) (-52) (by decide) := by rfl
  show Float.ofModel (.pack (UnpackedFloat.mul .binary64 (h.packed s).toModel.unpack
    (Float.ofBits 0x3FF0000000000000).toModel.unpack)) = _
  rw [h.unpack_packed, hone]
  have hsign : s * Sign.positive = s := by cases s <;> rfl
  show Float.ofModel (.pack (roundWithAccuracy .binary64 (s * .positive) _ _ .exact)) = _
  rw [hsign, h.round_exact s rfl (by omega)]
  rfl

theorem mul_finite (spec : Format) (s s' : Sign) {m m' : Nat} (e e' : Int) (hm : 0 < m) (hm' : 0 < m') :
    UnpackedFloat.mul spec (.finite s m e hm) (.finite s' m' e' hm') =
      roundWithAccuracy spec (s * s') (m * m') (e + e') .exact := rfl

/-- A natural number beyond the width of a mantissa is a double if it has such parts. -/
theorem ofScientific_eq (h : Normal m e) (he : -52 ≤ e) (hn : n * 2 ^ 52 = m * 2 ^ (e + 52).toNat) :
    UnpackedFloat.ofScientific .binary64 n 0 = h.parts .positive := by
  obtain ⟨hne, -⟩ := h.log2_of_eq hn
  have hwidth : Format.binary64.mantissaBits = 53 := rfl
  have hsmall : ¬ (0 : Int) < -((2 ^ Format.binary64.exponentBits : Int) + n.log2) := by
    show ¬ (0 : Int) < -((2 ^ 11 : Int) + n.log2)
    omega
  have hscaled : n <<< 53 = m * 2 ^ ((e + 52).toNat + 1) := by
    rw [Nat.shiftLeft_eq, Nat.pow_succ 2 (e + 52).toNat, ← Nat.mul_assoc, ← hn, Nat.mul_assoc,
      ← Nat.pow_succ]
  have hsign : Sign.positive * Sign.positive = .positive := rfl
  rw [UnpackedFloat.ofScientific, dif_neg hne, if_neg (by decide), if_neg hsmall, if_pos (by decide),
    mul_finite, hsign]
  refine h.round_exact .positive (k := (e + 52).toNat + 1) ?_ ?_
  · rw [hwidth, hscaled, Int.toNat_zero, Nat.pow_zero, Nat.mul_one]
  · rw [hwidth]
    omega

theorem ofNat_eq (h : Normal m e) (he : -52 ≤ e) (hn : n * 2 ^ 52 = m * 2 ^ (e + 52).toNat) :
    Float.ofNat n = h.packed .positive := by
  show Float.ofScientific n false 0 = _
  unfold Float.ofScientific
  split
  · next hlt =>
      show n.toUInt64.toFloat * Float.ofBits 0x3FF0000000000000 = _
      rw [h.toFloat_eq hlt.1 he hn, h.mul_one]
  · exact congrArg (fun parts => Float.ofModel (.pack parts)) (h.ofScientific_eq he hn)

end Normal

end SiteTrial.Decimal
