import SiteTrial.Proofs.Decimal.Normal

/-!
# Doubles without a minus sign

A double of a natural number has no minus sign, since rounding keeps the sign and so does packing. So it
is not below zero.

* `Upright`, `IsUpright` : the parts of a double have no minus sign;
* `IsUpright.add`, `IsUpright.mul`, `IsUpright.div` : what keeps it so;
* `upright_unpack_pack` : packing keeps the sign;
* `not_lt_zero_of_upright`, `not_ofInt_lt_zero` : what is not below zero.
-/

namespace SiteTrial.Decimal

open Float.Model Float.Model.UnpackedFloat

/-- No minus sign, or no number. -/
def Upright : UnpackedFloat → Prop
  | .notANumber => True
  | .infinity s => s = .positive
  | .zero s => s = .positive
  | .finite s _ _ _ => s = .positive

theorem upright_roundWithAccuracy (spec : Format) (m : Nat) (e : Int) (a : Accuracy) :
    Upright (roundWithAccuracy spec .positive m e a) := by
  unfold roundWithAccuracy
  dsimp only
  split <;> rfl

theorem upright_mul {spec : Format} {x y : UnpackedFloat} (hx : Upright x) (hy : Upright y) :
    Upright (UnpackedFloat.mul spec x y) := by
  cases x <;> cases y <;> simp only [Upright] at hx hy <;> subst_vars <;> first
    | trivial
    | exact upright_roundWithAccuracy _ _ _ _

theorem upright_div {spec : Format} {x y : UnpackedFloat} (hx : Upright x) (hy : Upright y) :
    Upright (UnpackedFloat.div spec x y) := by
  cases x <;> cases y <;> simp only [Upright] at hx hy <;> subst_vars <;> first
    | trivial
    | exact upright_roundWithAccuracy _ _ _ _

theorem upright_square (spec : Format) (x : UnpackedFloat) : Upright (UnpackedFloat.mul spec x x) := by
  have hsign : ∀ s : Sign, s * s = .positive := by
    intro s
    cases s <;> rfl
  cases x with
  | notANumber => trivial
  | infinity s => exact hsign s
  | zero s => exact hsign s
  | finite s m e hm =>
      show Upright (roundWithAccuracy spec (s * s) _ _ _)
      rw [hsign]
      exact upright_roundWithAccuracy _ _ _ _

theorem upright_normalize (spec : Format) (n : Nat) (e : Int) :
    Upright (UnpackedFloat.normalize spec n e .positive) := by
  unfold UnpackedFloat.normalize
  split
  · next hneg =>
      rw [Int.compare_eq_lt] at hneg
      omega
  · rfl
  · exact upright_roundWithAccuracy _ _ _ _

theorem upright_add {spec : Format} {x y : UnpackedFloat} (hx : Upright x) (hy : Upright y) :
    Upright (UnpackedFloat.add spec x y) := by
  cases x <;> cases y <;> simp only [Upright] at hx hy <;> subst_vars <;> first
    | trivial
    | exact upright_normalize spec (_ + _) _

theorem upright_ofScientific (n : Nat) {e : Int} (he : 0 ≤ e) :
    Upright (UnpackedFloat.ofScientific .binary64 n e) := by
  unfold UnpackedFloat.ofScientific
  split
  · rfl
  · split
    · rfl
    · split
      · rfl
      · exact upright_roundWithAccuracy _ _ _ _

theorem upright_unpack_packComponents (e : BitVec 11) (m : BitVec 52) :
    Upright (UnpackedFloat.unpack .binary64 (packComponents .binary64 .positive e m)) := by
  have hsign := Normal.ofBitVec_unpackSign .positive e m
  unfold UnpackedFloat.unpack
  dsimp only
  rw [hsign]
  split
  · split <;> trivial
  · split
    · split <;> trivial
    · trivial

theorem upright_unpack_pack {x : UnpackedFloat} (hx : Upright x) :
    Upright (UnpackedFloat.unpack .binary64 (UnpackedFloat.pack .binary64 x)) := by
  cases x with
  | notANumber => trivial
  | infinity s =>
      obtain rfl : s = .positive := hx
      exact upright_unpack_packComponents _ _
  | zero s =>
      obtain rfl : s = .positive := hx
      exact upright_unpack_packComponents _ _
  | finite s m e hm =>
      obtain rfl : s = .positive := hx
      unfold UnpackedFloat.pack
      dsimp only
      split
      · exact upright_unpack_packComponents _ _
      · split <;> exact upright_unpack_packComponents _ _

theorem not_lt_zero_of_upright {x : Float} (hx : Upright x.toModel.unpack) : ¬ x < 0.0 := by
  have hzero : (0.0 : Float).toModel.unpack = .zero .positive := rfl
  show ¬ decide (x.toModel < (0.0 : Float).toModel) = true
  rw [decide_eq_true_iff]
  show ¬ (x.toModel.unpack.compare (0.0 : Float).toModel.unpack == some .lt) = true
  rw [hzero, beq_iff_eq]
  cases hparts : x.toModel.unpack with
  | notANumber => nofun
  | infinity s =>
      rw [hparts] at hx
      obtain rfl : s = .positive := hx
      nofun
  | zero s => nofun
  | finite s m e hm =>
      rw [hparts] at hx
      obtain rfl : s = .positive := hx
      nofun

/-- The double of a natural number. -/
theorem upright_ofNat (n : Nat) : Upright (Float.ofNat n).toModel.unpack := by
  show Upright (Float.ofScientific n false 0).toModel.unpack
  unfold Float.ofScientific
  split
  · -- up to the width of a mantissa it is a product with one
    have hone : (Float.ofBits 0x3FF0000000000000).toModel.unpack =
        .finite .positive (2 ^ 52) (-52) (by decide) := rfl
    refine upright_unpack_pack (upright_mul (upright_unpack_pack (upright_normalize _ _ _)) ?_)
    show Upright (Float.ofBits 0x3FF0000000000000).toModel.unpack
    rw [hone]
    rfl
  · exact upright_unpack_pack (upright_ofScientific n (Int.le_refl 0))

/-! ## Doubles -/

/-- A double without a minus sign, or the one that is no number. -/
def IsUpright (x : Float) : Prop := Upright x.toModel.unpack

theorem isUpright_ofInt {n : Int} (h : 0 ≤ n) : IsUpright (Float.ofInt n) := by
  obtain ⟨m, rfl⟩ := Int.eq_ofNat_of_zero_le h
  exact upright_ofNat m

theorem not_ofInt_lt_zero {n : Int} (h : 0 ≤ n) : ¬ Float.ofInt n < 0.0 :=
  not_lt_zero_of_upright (isUpright_ofInt h)

theorem isUpright_square (x : Float) : IsUpright (x * x) := upright_unpack_pack (upright_square _ _)

namespace IsUpright

variable {x y : Float}

theorem add (hx : IsUpright x) (hy : IsUpright y) : IsUpright (x + y) :=
  upright_unpack_pack (upright_add hx hy)

theorem mul (hx : IsUpright x) (hy : IsUpright y) : IsUpright (x * y) :=
  upright_unpack_pack (upright_mul hx hy)

theorem div (hx : IsUpright x) (hy : IsUpright y) : IsUpright (x / y) :=
  upright_unpack_pack (upright_div hx hy)

end IsUpright

end SiteTrial.Decimal
