import SiteTrial.Proofs.Statistics.Doubles

/-!
# Summaries in range

Only what is too large keeps a list of measurements from having a summary: a square of a distance from the
mean, or the hundredfold of a figure that is to be rounded. Roots and tests always come out.

* `SquareInRange`, `exists_varianceAround_iff` : which measurements have a variance;
* `Summary.InRange`, `exists_ofRising_iff` : which have a summary;
* `isUpright_variance` : the variance of a summary has no minus sign;
* `exists_isSignificant_of_summaries` : two lists that have summaries can be tested.
-/

namespace SiteTrial

open Arithmetic Decimal

/-- The square of a finite double is finite. -/
def SquareInRange (x : Float) : Prop := x.isFinite = true → (secondPower x).isInf = false

theorem exists_square_iff {x : Float} : (∃ y, square x = .ok y) ↔ SquareInRange x := by
  show (∃ y, squareOf x = .ok y) ↔ _
  unfold squareOf SquareInRange
  dsimp only
  split
  · next hlarge =>
      rw [Bool.and_eq_true] at hlarge
      refine iff_of_false nofun fun h => ?_
      rw [h hlarge.2] at hlarge
      cases hlarge.1
  · next hrange =>
      refine iff_of_true ⟨_, rfl⟩ fun hfinite => ?_
      rw [hfinite, Bool.and_true] at hrange
      exact Bool.eq_false_of_not_eq_true hrange

theorem exists_varianceAround_iff {mean : Float} {vs : List Float} :
    (∃ v, varianceAround mean vs = .ok v) ↔ ∀ v ∈ vs, SquareInRange (v - mean) := by
  unfold varianceAround
  refine (exists_bind_iff (p := True) fun _ => iff_true_intro ⟨_, rfl⟩).trans ?_
  rw [and_true, exists_mapM_iff]
  exact forall₂_congr fun _ _ => exists_square_iff

/-- Nothing is too large in the figures of rising measurements. -/
structure Summary.InRange (first : Float) (rest : List Float) : Prop where
  mean : HasHundredfold (meanOf (first :: rest))
  percentiles : ∀ p ∈ [50, 95, 99], ∃ q, interpolate first rest (ofInt p) = .ok q ∧ HasHundredfold q
  ends : HasHundredfold first ∧ HasHundredfold (nth first rest rest.length)
  squares : ∀ v ∈ first :: rest, SquareInRange (v - meanOf (first :: rest))
  variance : ∀ v, varianceAround (meanOf (first :: rest)) (first :: rest) = .ok v →
    HasHundredfold v ∧ HasHundredfold v.sqrt

namespace Summary

variable {first : Float} {rest : List Float} {s : Summary Float}

/-- The figures of a summary before they are rounded. -/
structure Rounded (first : Float) (rest : List Float) (s : Summary Float) : Prop where
  mean : round2 (meanOf (first :: rest)) = .ok s.mean
  median : ∃ q, interpolate first rest (ofInt 50) = .ok q ∧ round2 q = .ok s.median
  p95 : ∃ q, interpolate first rest (ofInt 95) = .ok q ∧ round2 q = .ok s.p95
  p99 : ∃ q, interpolate first rest (ofInt 99) = .ok q ∧ round2 q = .ok s.p99
  min : round2 first = .ok s.min
  max : round2 (nth first rest rest.length) = .ok s.max
  variance : ∃ v, varianceAround (meanOf (first :: rest)) (first :: rest) = .ok v ∧
    round2 v.sqrt = .ok s.standardDeviation ∧ round2 v = .ok s.variance

theorem rounded_of_ofRising (h : ofRising first rest = .ok s) : Rounded first rest s := by
  unfold ofRising at h
  obtain ⟨v, hv, h⟩ := exists_of_bind h
  obtain ⟨mean, hmean, h⟩ := exists_of_bind h
  obtain ⟨q50, hq50, h⟩ := exists_of_bind h
  obtain ⟨median, hmedian, h⟩ := exists_of_bind h
  obtain ⟨q95, hq95, h⟩ := exists_of_bind h
  obtain ⟨p95, hp95, h⟩ := exists_of_bind h
  obtain ⟨q99, hq99, h⟩ := exists_of_bind h
  obtain ⟨p99, hp99, h⟩ := exists_of_bind h
  obtain ⟨min, hmin, h⟩ := exists_of_bind h
  obtain ⟨max, hmax, h⟩ := exists_of_bind h
  obtain ⟨root, hroot, h⟩ := exists_of_bind h
  obtain ⟨deviation, hdeviation, h⟩ := exists_of_bind h
  obtain ⟨variance, hvariance, h⟩ := exists_of_bind h
  obtain rfl := Except.ok.inj h
  rw [root_of_isUpright (isUpright_varianceAround hv)] at hroot
  rw [← Except.ok.inj hroot] at hdeviation
  exact ⟨hmean, ⟨q50, hq50, hmedian⟩, ⟨q95, hq95, hp95⟩, ⟨q99, hq99, hp99⟩, hmin, hmax,
    ⟨v, hv, hdeviation, hvariance⟩⟩

theorem Rounded.inRange (h : Rounded first rest s) : InRange first rest := by
  obtain ⟨hmean, ⟨q50, hq50, hmedian⟩, ⟨q95, hq95, hp95⟩, ⟨q99, hq99, hp99⟩, hmin, hmax,
    ⟨v, hv, hdeviation, hvariance⟩⟩ := h
  have hpercentiles : ∀ p ∈ [50, 95, 99], ∃ q, interpolate first rest (ofInt p) = .ok q ∧ HasHundredfold q := by
    intro p hp
    simp only [List.mem_cons, List.not_mem_nil, or_false] at hp
    rcases hp with rfl | rfl | rfl
    · exact ⟨q50, hq50, exists_round2_iff.1 ⟨_, hmedian⟩⟩
    · exact ⟨q95, hq95, exists_round2_iff.1 ⟨_, hp95⟩⟩
    · exact ⟨q99, hq99, exists_round2_iff.1 ⟨_, hp99⟩⟩
  refine ⟨exists_round2_iff.1 ⟨_, hmean⟩, hpercentiles, ⟨exists_round2_iff.1 ⟨_, hmin⟩,
    exists_round2_iff.1 ⟨_, hmax⟩⟩, exists_varianceAround_iff.1 ⟨v, hv⟩, fun v' hv' => ?_⟩
  cases hv.symm.trans hv'
  exact ⟨exists_round2_iff.1 ⟨_, hvariance⟩, exists_round2_iff.1 ⟨_, hdeviation⟩⟩

theorem exists_ofRising_iff : (∃ s, ofRising first rest = .ok s) ↔ InRange first rest := by
  refine ⟨fun ⟨s, hs⟩ => (rounded_of_ofRising hs).inRange, fun h => ?_⟩
  obtain ⟨mean, hmean⟩ := exists_round2_iff.2 h.mean
  obtain ⟨q50, hq50, h50⟩ := h.percentiles 50 (by decide)
  obtain ⟨q95, hq95, h95⟩ := h.percentiles 95 (by decide)
  obtain ⟨q99, hq99, h99⟩ := h.percentiles 99 (by decide)
  obtain ⟨median, hmedian⟩ := exists_round2_iff.2 h50
  obtain ⟨p95, hp95⟩ := exists_round2_iff.2 h95
  obtain ⟨p99, hp99⟩ := exists_round2_iff.2 h99
  obtain ⟨min, hmin⟩ := exists_round2_iff.2 h.ends.1
  obtain ⟨max, hmax⟩ := exists_round2_iff.2 h.ends.2
  obtain ⟨v, hv⟩ := exists_varianceAround_iff.2 h.squares
  obtain ⟨hsquares, hroot⟩ := h.variance v hv
  obtain ⟨deviation, hdeviation⟩ := exists_round2_iff.2 hroot
  obtain ⟨variance, hvariance⟩ := exists_round2_iff.2 hsquares
  refine ⟨⟨mean, median, p95, p99, min, max, deviation, variance⟩, ?_⟩
  unfold ofRising
  dsimp only
  simp only [hv, hmean, hq50, hmedian, hq95, hp95, hq99, hp99, hmin, hmax,
    root_of_isUpright (isUpright_varianceAround hv), hdeviation, hvariance, ok_bind]
  rfl

end Summary

/-- Nothing is too large in the figures of measurements, of which there are some. -/
def SummaryInRange (vs : List Float) : Prop :=
  ∃ first rest, rising vs = first :: rest ∧ Summary.InRange first rest

theorem exists_summarize_iff {vs : List Float} : (∃ s, summarize vs = .ok s) ↔ SummaryInRange vs := by
  unfold summarize SummaryInRange
  cases hrising : rising vs with
  | nil => exact iff_of_false nofun nofun
  | cons first rest =>
      dsimp only
      constructor
      · rintro ⟨s, hs⟩
        exact ⟨first, rest, rfl, Summary.exists_ofRising_iff.1 ⟨s, eq_of_mapError hs⟩⟩
      · rintro ⟨first', rest', heq, hrange⟩
        cases heq
        obtain ⟨s, hs⟩ := Summary.exists_ofRising_iff.2 hrange
        exact ⟨s, by rw [hs]; rfl⟩

theorem rounded_of_summarize {vs : List Float} {s : Summary Float} (h : summarize vs = .ok s) :
    ∃ first rest, rising vs = first :: rest ∧ Summary.Rounded first rest s := by
  unfold summarize at h
  split at h
  · cases h
  · next first rest hrising => exact ⟨first, rest, hrising, Summary.rounded_of_ofRising (eq_of_mapError h)⟩

/-! ## Tests -/

theorem isUpright_variance {vs : List Float} {s : Summary Float} (h : summarize vs = .ok s) :
    IsUpright s.variance := by
  obtain ⟨first, rest, -, hrounded⟩ := rounded_of_summarize h
  obtain ⟨v, hv, -, hvariance⟩ := hrounded.variance
  exact isUpright_round2 (isUpright_varianceAround hv) hvariance

theorem exists_standardError_of_isUpright {n k : ℕ} {v w : Float} (hn : 1 ≤ n) (hk : 1 ≤ k)
    (hv : IsUpright v) (hw : IsUpright w) : ∃ error, standardError n k v w = .ok error := by
  have hcount : ∀ {n k : ℕ}, 1 ≤ n → 1 ≤ k → (0 : ℤ) ≤ n + k - 2 := by omega
  refine ⟨_, root_of_isUpright (IsUpright.mul (IsUpright.div (IsUpright.add ?_ ?_) ?_) (IsUpright.add ?_ ?_))⟩
  · exact (isUpright_ofInt (by omega)).mul hv
  · exact (isUpright_ofInt (by omega)).mul hw
  · exact isUpright_ofInt (hcount hn hk)
  · exact (isUpright_natCast 1).div (isUpright_natCast n)
  · exact (isUpright_natCast 1).div (isUpright_natCast k)

/-- Two lists that have summaries can be tested. -/
theorem exists_isSignificant_of_summaries {vs ws : List Float} {s t : Summary Float}
    (hs : summarize vs = .ok s) (ht : summarize ws = .ok t) :
    ∃ significant, isSignificant vs ws = .ok significant := by
  unfold isSignificant
  split
  · exact ⟨false, rfl⟩
  · next hfew =>
      obtain ⟨error, herror⟩ := exists_standardError_of_isUpright (n := vs.length) (k := ws.length)
        (by omega) (by omega) (isUpright_variance hs) (isUpright_variance ht)
      rw [hs, ht, ok_bind, ok_bind, herror]
      exact ⟨_, rfl⟩

end SiteTrial
