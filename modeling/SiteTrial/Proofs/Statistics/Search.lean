import Mathlib
import SiteTrial.Statistics.Search

/-!
# The boundary that is searched for

Where no answer behind a no is yes, both searches find the number at which the answers change.

* `Falls` : no answer behind a no is yes; `Parts` : the answers change at a number;
* `parts_bisect`, `parts_boundary` : what the two searches find;
* `parts_values` : the values of a row before the boundary and behind it.
-/

namespace SiteTrial.Sorted

/-- No answer below a number is yes behind one that is no. -/
def Falls (holds : Nat → Bool) (count : Nat) : Prop :=
  ∀ i j, i ≤ j → j < count → holds j = true → holds i = true

/-- Between two numbers the answer is yes below a third one, and no from there on. -/
structure Parts (holds : Nat → Bool) (low middle high : Nat) : Prop where
  least : low ≤ middle
  most : middle ≤ high
  below : ∀ i, low ≤ i → i < middle → holds i = true
  above : ∀ i, middle ≤ i → i < high → holds i = false

variable {holds : Nat → Bool} {late : Bool}

theorem Falls.mono {low high : Nat} (h : Falls holds high) (hle : low ≤ high) : Falls holds low :=
  fun i j hij hj => h i j hij (by omega)

/-- Behind a no there are only noes. -/
theorem Falls.above {i j count : Nat} (h : Falls holds count) (hij : i ≤ j) (hj : j < count)
    (hno : ¬ holds i = true) : holds j = false := by
  rw [Bool.eq_false_iff]
  intro hyes
  exact hno (h i j hij hj hyes)

theorem parts_bisect {low high : Nat} (h : Falls holds high) (hle : low ≤ high) :
    Parts holds low (bisect late holds low high) high := by
  fun_induction bisect late holds low high with
  | case1 low high hlt middle hholds ih =>
      have hmiddle : low ≤ middle ∧ middle < high := by
        constructor <;> grind
      have hparts := ih h (by omega)
      have hleast := hparts.least
      refine ⟨by omega, hparts.most, fun i hlow hi => ?_, hparts.above⟩
      by_cases hbelow : i ≤ middle
      · exact h i middle hbelow hmiddle.2 hholds
      · exact hparts.below i (by omega) hi
  | case2 low high hlt middle hholds ih =>
      have hmiddle : low ≤ middle ∧ middle < high := by
        constructor <;> grind
      have hparts := ih (h.mono (by omega)) hmiddle.1
      have hmost := hparts.most
      refine ⟨hparts.least, by omega, hparts.below, fun i hlow hi => ?_⟩
      by_cases hbelow : i < middle
      · exact hparts.above i hlow hbelow
      · exact h.above (by omega) hi hholds
  | case3 low high hlt =>
      exact ⟨Nat.le_refl _, hle, by omega, by omega⟩

/-- A stride ends at two numbers, the first one answered by yes and the second one by no or the limit. -/
theorem stride_spec {limit last next : Nat} (hholds : holds last = true) (hlast : last < next)
    (hlimit : last < limit) :
    ∃ low high, stride holds limit last next = (low, high) ∧ low < high ∧ high ≤ limit ∧
      holds low = true ∧ (high < limit → ¬ holds high = true) := by
  fun_induction stride holds limit last next with
  | case1 last next hlt hnext ih => exact ih hnext (by omega) hlt
  | case2 last next hlt hnext => exact ⟨last, next, rfl, hlast, by omega, hholds, fun _ => hnext⟩
  | case3 last next hlt => exact ⟨last, limit, rfl, hlimit, Nat.le_refl _, hholds, by omega⟩

theorem parts_boundary {count : Nat} (h : Falls holds count) (hnone : ∀ i, count ≤ i → holds i = false) :
    Parts holds 0 (boundary late holds count) count := by
  unfold boundary
  split
  · next hfirst =>
      have hcount : 0 < count := by
        by_contra hzero
        rw [hnone 0 (by omega)] at hfirst
        cases hfirst
      obtain ⟨low, high, hstride, hlt, hlimit, hlow, hhigh⟩ := stride_spec hfirst Nat.one_pos hcount
      rw [hstride]
      dsimp only
      have hparts : Parts holds (low + 1) (bisect late holds (low + 1) high) high :=
        parts_bisect (h.mono hlimit) hlt
      have hleast := hparts.least
      have hmost := hparts.most
      refine ⟨by omega, by omega, fun i _ hi => ?_, fun i hi hcount => ?_⟩
      · by_cases hbelow : i ≤ low
        · exact h i low hbelow (by omega) hlow
        · exact hparts.below i (by omega) hi
      · by_cases hbelow : i < high
        · exact hparts.above i hi hbelow
        · exact h.above (by omega) hcount (hhigh (by omega))
  · next hfirst =>
      exact ⟨Nat.le_refl _, Nat.zero_le _, by omega, fun i _ hi => h.above (Nat.zero_le i) hi hfirst⟩

section Row

variable {α : Type} {row : List α} {accepts : α → Bool}

/-- A question about the values of a row. -/
def asked (row : List α) (accepts : α → Bool) (i : Nat) : Bool := (row[i]?).any accepts

theorem asked_of_length_le {i : Nat} (hi : row.length ≤ i) : asked row accepts i = false := by
  rw [asked, List.getElem?_eq_none hi]
  rfl

theorem falls_asked (h : row.Pairwise fun a b => accepts b = true → accepts a = true) :
    Falls (asked row accepts) row.length := by
  intro i j hij hj hyes
  rw [asked, List.getElem?_eq_getElem hj] at hyes
  rw [asked, List.getElem?_eq_getElem (by omega)]
  rcases Nat.eq_or_lt_of_le hij with rfl | hlt
  · exact hyes
  · exact List.pairwise_iff_getElem.1 h i j (by omega) hj hlt hyes

/-- A number at which the answers change tells the first values of a row from the others. -/
theorem Parts.values {n : Nat} (h : Parts (asked row accepts) 0 n row.length) :
    (∀ a ∈ row.take n, accepts a = true) ∧ ∀ a ∈ row.drop n, accepts a = false := by
  constructor
  · intro a ha
    obtain ⟨i, hi, rfl⟩ := List.mem_take_iff_getElem.1 ha
    have hyes := h.below i (Nat.zero_le i) (by omega)
    rwa [asked, List.getElem?_eq_getElem (by omega)] at hyes
  · intro a ha
    obtain ⟨i, hi, rfl⟩ := List.mem_drop_iff_getElem.1 ha
    have hno := h.above (n + i) (by omega) (by omega)
    rwa [asked, List.getElem?_eq_getElem (by omega)] at hno

end Row

end SiteTrial.Sorted
