import SiteTrial.Proofs.Answers
import SiteTrial.Proofs.Decimal.Finite
import SiteTrial.Value.Number

/-!
# Numbers out of range

An integer can be too large for a double, and an infinite double has no integer. No other number is refused
where one is made of the other.

* `Value.IsBeyondDoubles`, `Value.IsEndless` : the two kinds of numbers;
* `Value.numeric?_eq_error_iff`, `Value.toInteger_eq_error_iff` : what is refused is one of them;
* `Value.numeric_cases` : a number and the double that is made of it.
-/

namespace SiteTrial

theorem doubleOfInt_eq_error_iff {n : Int} :
    (∃ f, doubleOfInt n = .error f) ↔ (Float.ofInt n).isFinite = false := by
  unfold doubleOfInt
  dsimp only
  split
  · next hfinite => simp [hfinite]
  · next hfinite => simpa using hfinite

theorem integerOf_eq_error_iff {r : Decimal.Binary.Rounding} {x : Float} :
    (∃ f, integerOf r x = .error f) ↔ x.isFinite = false := by
  rw [← Bool.not_eq_true, ← Decimal.exists_finite_iff]
  unfold integerOf
  cases hx : Decimal.Binary.ofFloat x with
  | notANumber => exact iff_of_true ⟨_, rfl⟩ nofun
  | infinite negative => exact iff_of_true ⟨_, rfl⟩ nofun
  | finite negative m q => exact iff_of_false nofun (not_not.2 ⟨negative, m, q, rfl⟩)

namespace Value

/-- An integer of which no double can be made. -/
def IsBeyondDoubles (v : Value) : Prop := ∃ n, v = .int n ∧ (Float.ofInt n).isFinite = false

/-- A double of which no integer can be made: an infinite one, or the one that is no number. -/
def IsEndless (v : Value) : Prop := ∃ x, v = .double x ∧ x.isFinite = false

theorem numeric?_eq_error_iff {v : Value} : (∃ f, v.numeric? = .error f) ↔ v.IsBeyondDoubles := by
  constructor
  · intro h
    unfold numeric? at h
    split at h
    · exact absurd h nofun
    · next n => exact ⟨n, rfl, doubleOfInt_eq_error_iff.1 (error_map_iff.1 h)⟩
    · exact absurd h nofun
    · exact absurd h nofun
  · rintro ⟨n, rfl, hn⟩
    exact error_map_iff.2 (doubleOfInt_eq_error_iff.2 hn)

theorem toInteger_eq_error_iff {v : Value} (h : v.isNumeric = true) :
    (∃ f, v.toInteger = .error f) ↔ v.IsEndless := by
  unfold isNumeric at h
  split at h
  · exact iff_of_false nofun nofun
  · exact iff_of_false nofun nofun
  · next x =>
      refine integerOf_eq_error_iff.trans ⟨fun h => ⟨x, rfl, h⟩, ?_⟩
      rintro ⟨y, hy, hinfinite⟩
      cases hy
      exact hinfinite
  · cases h

theorem toDouble_int (n : Int) : (Value.int n).toDouble = doubleOfInt n := by
  show ((doubleOfInt n).map some).bind _ = _
  cases doubleOfInt n <;> rfl

/-- A number is made a double, unless it is an integer that is too large. -/
theorem numeric_cases {v : Value} (h : v.isNumeric = true) :
    (∃ x, v.numeric? = .ok (some x) ∧ v.toDouble = .ok x) ∨
      v.IsBeyondDoubles ∧ v.toDouble = .error .integerTooLarge := by
  unfold isNumeric at h
  split at h
  · exact .inl ⟨_, rfl, rfl⟩
  · next n =>
      rw [toDouble_int]
      show (∃ x, (doubleOfInt n).map some = _ ∧ _) ∨ _
      unfold doubleOfInt
      dsimp only
      split
      · exact .inl ⟨_, rfl, rfl⟩
      · next hvast => exact .inr ⟨⟨n, rfl, Bool.eq_false_iff.2 hvast⟩, rfl⟩
  · exact .inl ⟨_, rfl, rfl⟩
  · cases h

end Value

end SiteTrial
