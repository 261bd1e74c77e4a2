import Mathlib

/-!
# The order of positive doubles

Positive doubles, the infinite one among them, stand in one line: each has a rank in it, and no two have
the same.

* `Positive` : a double above zero; `Positive.parts` : what it is made of;
* `rank` : its place in the line; `Positive.lt_iff_rank`, `Positive.eq_of_rank` : the place decides.
-/

namespace SiteTrial.Decimal

open Float.Model Float.Model.UnpackedFloat

/-- The place of a positive double: by its exponent first, and then by its mantissa. -/
def rank (x : Float) : WithTop (ℤ ×ₗ ℕ) :=
  match x.toModel.unpack with
  | .finite _ m e _ => (toLex (e, m) : ℤ ×ₗ ℕ)
  | _ => ⊤

def Positive (x : Float) : Prop := 0.0 < x

theorem lt_iff_compare {x y : Float} :
    x < y ↔ x.toModel.unpack.compare y.toModel.unpack = some .lt := by
  show decide (x.toModel < y.toModel) = true ↔ _
  rw [decide_eq_true_iff]
  show (x.toModel.unpack.compare y.toModel.unpack == some .lt) = true ↔ _
  rw [beq_iff_eq]

/-- Doubles are made of different parts. -/
theorem eq_of_unpack {x y : Float} (h : x.toModel.unpack = y.toModel.unpack) : x = y := by
  obtain ⟨⟨x, hx⟩⟩ := x
  obtain ⟨⟨y, hy⟩⟩ := y
  have hbits : x = y := UInt64.toBitVec_inj.1 ((unpack_inj_of_valid hx hy).1 h)
  subst hbits
  rfl

namespace Positive

variable {x y : Float}

theorem parts (h : Positive x) : x.toModel.unpack = .infinity .positive ∨
    ∃ m e hm, x.toModel.unpack = .finite .positive m e hm := by
  have hlt := lt_iff_compare.1 h
  rw [show (0.0 : Float).toModel.unpack = .zero .positive from rfl] at hlt
  match hx : x.toModel.unpack with
  | .infinity .positive => exact .inl rfl
  | .finite .positive m e hm => exact .inr ⟨m, e, hm, rfl⟩
  | .infinity .negative => simp [hx, UnpackedFloat.compare] at hlt
  | .finite .negative m e hm => simp [hx, UnpackedFloat.compare] at hlt
  | .zero s => simp [hx, UnpackedFloat.compare] at hlt
  | .notANumber => simp [hx, UnpackedFloat.compare] at hlt

theorem lt_iff_rank (hx : Positive x) (hy : Positive y) : x < y ↔ rank x < rank y := by
  rw [lt_iff_compare]
  unfold rank
  rcases hx.parts with hx | ⟨m, e, hm, hx⟩ <;> rcases hy.parts with hy | ⟨n, f, hn, hy⟩ <;> rw [hx, hy]
  · simp [UnpackedFloat.compare]
  · simp [UnpackedFloat.compare]
  · simp [UnpackedFloat.compare]
  · simp [UnpackedFloat.compare, Ordering.then_eq_lt, Prod.Lex.toLex_lt_toLex, compare_lt_iff_lt]

theorem eq_of_rank (hx : Positive x) (hy : Positive y) (h : rank x = rank y) : x = y := by
  refine eq_of_unpack ?_
  unfold rank at h
  rcases hx.parts with hx | ⟨m, e, hm, hx⟩ <;> rcases hy.parts with hy | ⟨n, f, hn, hy⟩ <;>
    rw [hx, hy] at h ⊢
  · cases h
  · cases h
  · have hpair : (e, m) = (f, n) := toLex_inj.1 (WithTop.coe_inj.1 h)
    cases hpair
    rfl

end Positive

end SiteTrial.Decimal
