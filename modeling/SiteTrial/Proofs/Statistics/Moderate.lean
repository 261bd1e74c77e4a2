import SiteTrial.Proofs.Statistics.Range

/-!
# Statistics of moderate measurements

Measurements up to `2 ^ 480`, which is more than `10 ^ 144`, have squares far below the greatest double. Then
nothing that is computed from them is too large, unless there are more than `2 ^ 53` of them.

* `hasHundredfold_of_between` : what can be rounded to two decimals;
* `between_meanOf`, `exists_varianceAround`, `exists_interpolate` : the figures and their bounds;
* `Summary.inRange_of_between` : such measurements have a summary;
* `cases_of_round2` : a rounded figure is zero or not too close to it.
-/

namespace SiteTrial

open Arithmetic Decimal

variable {a : ℕ} {x y : Float} {vs : List Float}

/-! ## Two decimals -/

theorem between_natCast {n : ℕ} (hn : n ≤ 2 ^ 53) : Between n n (ofInt n) := by
  have h := between_ofInt (n := n) (by exact_mod_cast mark_natCast hn)
  exact_mod_cast h

theorem between_zero : Between 0 0 (ofInt 0 : Float) := by
  have h := between_natCast (n := 0) (by decide)
  exact_mod_cast h

theorem between_one : Between 1 1 (ofInt 1 : Float) := by
  have h := between_natCast (n := 1) (by decide)
  exact_mod_cast h

theorem between_hundred : Between 100 100 (ofInt 100 : Float) := by
  have h := between_natCast (n := 100) (by decide)
  exact_mod_cast h

theorem between_half : Between 0 1 (decimal 5 1) := by
  have hone : (Float.Model.UnpackedFloat.Sign.positive.apply 1 : ℝ) = 1 := Int.cast_one
  have hnumber : number (decimal 5 1) = 1 / 2 := by
    unfold number
    rw [half_parts, valueOf_finite, hone, one_mul]
    norm_num
  refine ⟨rfl, ?_, ?_⟩
  · rw [hnumber]
    norm_num
  · rw [hnumber]
    norm_num

theorem between_hundredfold (h : Between (-2 ^ a) (2 ^ a) x) (ha : a ≤ 962) :
    Between (-2 ^ (a + 7)) (2 ^ (a + 7)) (x * ofInt 100) := by
  refine h.mul (between_hundred.mono (by norm_num) le_rfl) (by positivity) (mark_two_pow (by omega)) ?_
  rw [pow_add]
  exact mul_le_mul_of_nonneg_left (by norm_num) (by positivity)

theorem hasHundredfold_of_between (h : Between (-2 ^ a) (2 ^ a) x) (ha : a ≤ 962) : HasHundredfold x := by
  have hpow : (1 : ℝ) ≤ 2 ^ (a + 7) := one_le_pow₀ one_le_two
  have hmark := mark_two_pow (k := a + 8) (by omega)
  have hsum := (between_hundredfold h ha).add between_half hmark.neg hmark
    (by rw [pow_succ 2 (a + 7)]; linarith) (by rw [pow_succ 2 (a + 7)]; linarith)
  exact hsum.finite

theorem Decimal.Between.symm_of_nonneg {b : ℝ} (h : Between 0 b x) : Between (-b) b x :=
  h.mono (neg_nonpos.2 (h.le.trans h.ge)) le_rfl

/-! ## Means -/

theorem between_foldl_add (ha : a ≤ 970) {sum : Float} {k : ℕ} (hsum : Between 0 (k * 2 ^ a) sum)
    (hvs : ∀ v ∈ vs, Between 0 (2 ^ a) v) (hcount : k + vs.length ≤ 2 ^ 53) :
    Between 0 ((k + vs.length : ℕ) * 2 ^ a) (vs.foldl (· + ·) sum) := by
  induction vs generalizing sum k with
  | nil => exact hsum
  | cons v vs ih =>
      rw [List.forall_mem_cons] at hvs
      rw [List.length_cons, add_comm vs.length, ← add_assoc] at hcount ⊢
      have hmark := mark_natCast_mul_two_pow (c := k + 1) (by omega) ha
      refine ih (hsum.add hvs.1 mark_zero hmark (by norm_num) ?_) hvs.2 hcount
      rw [Nat.cast_add, Nat.cast_one, add_one_mul]

theorem between_total (ha : a ≤ 970) (hvs : ∀ v ∈ vs, Between 0 (2 ^ a) v) (hcount : vs.length ≤ 2 ^ 53) :
    Between 0 (vs.length * 2 ^ a) (total vs) := by
  have hzero : Between 0 ((0 : ℕ) * 2 ^ a) (ofInt 0) := between_zero.mono le_rfl (by simp)
  have hfold := between_foldl_add ha hzero hvs (by omega)
  rwa [Nat.zero_add] at hfold

/-- A sum of so many values, divided by their number. -/
theorem between_total_div (ha : a ≤ 970) (hvs : ∀ v ∈ vs, Between 0 (2 ^ a) v) (hsome : vs ≠ [])
    (hcount : vs.length ≤ 2 ^ 53) : Between 0 (2 ^ a) (total vs / ofInt vs.length) := by
  have hpos : (0 : ℝ) < vs.length := by exact_mod_cast List.length_pos_of_ne_nil hsome
  refine (between_total ha hvs hcount).div_of_nonneg (between_natCast hcount) hpos (mark_two_pow ha) ?_
  rw [mul_comm]

theorem between_meanOf (ha : a ≤ 970) (hvs : ∀ v ∈ vs, Between 0 (2 ^ a) v) (hsome : vs ≠ [])
    (hcount : vs.length ≤ 2 ^ 53) : Between 0 (2 ^ a) (meanOf vs) :=
  between_total_div ha hvs hsome hcount

/-! ## Variances -/

theorem between_secondPower (h : Between (-2 ^ a) (2 ^ a) x) (ha : 2 * a + 1 ≤ 970) :
    Between 0 (2 ^ (2 * a + 1)) (secondPower x) := by
  have hproduct : Between 0 (2 ^ (2 * a)) (x * x) := by
    refine h.square (mark_two_pow (by omega)) ?_
    rw [two_mul, pow_add]
  have hmark := mark_two_pow ha
  have htwice : Between 0 (2 ^ (2 * a + 1)) (x * x + x * x) := by
    refine hproduct.add hproduct mark_zero hmark (by norm_num) ?_
    rw [pow_succ, mul_two]
  unfold secondPower
  dsimp only
  split
  · next hpower =>
      rw [Bool.and_eq_true, decide_eq_true_iff, decide_eq_true_iff] at hpower
      exact between_of_le hpower.1 htwice hpower.2
  · exact hproduct.mono le_rfl (pow_le_pow_right₀ one_le_two (by omega))

theorem not_isInf (h : x.isFinite = true) : x.isInf = false := by
  change x.toModel.unpack.isFinite = true at h
  show x.toModel.unpack.isInf = false
  generalize x.toModel.unpack = p at h
  match p with
  | .zero _ => rfl
  | .finite _ _ _ _ => rfl

theorem exists_square (h : Between (-2 ^ a) (2 ^ a) x) (ha : 2 * a + 1 ≤ 970) :
    ∃ y, square x = .ok y ∧ Between 0 (2 ^ (2 * a + 1)) y := by
  have hsquare := between_secondPower h ha
  refine ⟨secondPower x, ?_, hsquare⟩
  show squareOf x = _
  unfold squareOf
  dsimp only
  rw [not_isInf hsquare.finite]
  rfl

theorem exists_varianceAround {mean : Float} (ha : 2 * a + 1 ≤ 970) (hmean : Between 0 (2 ^ a) mean)
    (hvs : ∀ v ∈ vs, Between 0 (2 ^ a) v) (hsome : vs ≠ []) (hcount : vs.length ≤ 2 ^ 53) :
    ∃ v, varianceAround mean vs = .ok v ∧ Between 0 (2 ^ (2 * a + 1)) v := by
  have hmark := mark_two_pow (k := a) (by omega)
  obtain ⟨squares, hsquares, hlength, hall⟩ :=
    exists_mapM_of_all (l := vs) (f := fun v => square (v - mean))
      (p := Between 0 (2 ^ (2 * a + 1))) fun v hv =>
        exists_square ((hvs v hv).sub hmean hmark.neg hmark (by norm_num) (by norm_num)) ha
  refine ⟨total squares / ofInt vs.length, ?_, ?_⟩
  · unfold varianceAround
    rw [hsquares]
    rfl
  · rw [← hlength] at hcount ⊢
    refine between_total_div ha hall (fun hnone => hsome ?_) hcount
    rw [hnone] at hlength
    exact List.length_eq_zero_iff.1 hlength.symm

/-! ## Percentiles -/

theorem nth_mem (first : Float) (rest : List Float) (i : ℕ) : nth first rest i ∈ first :: rest := by
  unfold nth
  cases hi : (first :: rest)[i]? with
  | none => exact List.getLast_mem _
  | some v => exact List.mem_of_getElem? hi

/-- The place of a percentile among `k + 1` values lies between two of them, or on one. -/
theorem between_index {p k : ℕ} (hp : p ≤ 100) (hk : k ≤ 2 ^ 53) :
    Between 0 k (ofInt p / ofInt 100 * ofInt k : Float) := by
  have hshare : Between 0 1 (ofInt p / ofInt 100 : Float) := by
    have hp' := (between_natCast (n := p) (by omega)).mono (Nat.cast_nonneg p) le_rfl
    refine hp'.div_of_nonneg between_hundred (by norm_num) mark_one ?_
    rw [one_mul]
    exact_mod_cast hp
  refine hshare.mul_of_nonneg ((between_natCast hk).mono (Nat.cast_nonneg k) le_rfl) (mark_natCast hk) ?_
  rw [one_mul]

theorem between_weighted {v w weight : Float} (ha : a ≤ 969) (hv : Between 0 (2 ^ a) v)
    (hw : Between 0 (2 ^ a) w) (hweight : Between 0 1 weight) :
    Between 0 (2 ^ (a + 1)) (v * (ofInt 1 - weight) + w * weight) := by
  have hother : Between 0 1 (ofInt 1 - weight) :=
    between_one.sub hweight mark_zero mark_one (by norm_num) (by norm_num)
  have hmark := mark_two_pow (k := a) (by omega)
  refine (hv.mul_of_nonneg hother hmark (mul_one _).le).add (hw.mul_of_nonneg hweight hmark (mul_one _).le)
    mark_zero (mark_two_pow (by omega)) (by norm_num) ?_
  rw [pow_succ, mul_two]

theorem exists_interpolate {first : Float} {rest : List Float} {p : ℕ} (ha : a ≤ 969) (hp : p ≤ 100)
    (hvs : ∀ v ∈ first :: rest, Between 0 (2 ^ a) v) (hcount : rest.length < 2 ^ 53) :
    ∃ q, interpolate first rest (ofInt p) = .ok q ∧ Between 0 (2 ^ (a + 1)) q := by
  have hwider : ∀ {v}, v ∈ first :: rest → Between 0 (2 ^ (a + 1)) v := fun hv =>
    (hvs _ hv).mono le_rfl (pow_le_pow_right₀ one_le_two a.le_succ)
  have hindex := between_index hp hcount.le
  unfold interpolate
  dsimp only
  generalize (ofInt p / ofInt 100 * ofInt rest.length : Float) = index at hindex ⊢
  obtain ⟨lower, hlower, hbelow, habove⟩ := exists_floor hindex.finite
  obtain ⟨upper, hupper⟩ : ∃ upper, ceil index = .ok upper := by
    cases hceil : ceil index with
    | ok upper => exact ⟨upper, rfl⟩
    | error f =>
        have hinfinite := integerOf_eq_error_iff.1 ⟨f, hceil⟩
        rw [hindex.finite] at hinfinite
        cases hinfinite
  rw [hlower, hupper, ok_bind, ok_bind]
  split
  · exact ⟨_, rfl, hwider (nth_mem ..)⟩
  split
  · exact ⟨_, rfl, hwider (List.mem_cons_self ..)⟩
  · -- the integer below the place is a double, so that the weight is rounded at most
    have hlow : 0 ≤ lower := by omega
    have hhigh : lower ≤ rest.length := by
      exact_mod_cast hbelow.trans hindex.ge
    obtain ⟨n, rfl⟩ := Int.eq_ofNat_of_zero_le hlow
    have hn := between_natCast (n := n) (by omega)
    have hnumber : number (ofInt n) = n := le_antisymm hn.ge hn.le
    have hweight : Between 0 1 (index - ofInt n) := by
      refine rounds_sub hindex.finite hn.finite 0 1 mark_zero mark_one ?_ ?_
      · rw [hnumber, sub_nonneg]
        exact_mod_cast hbelow
      · rw [hnumber, sub_le_iff_le_add']
        exact_mod_cast habove.le
    exact ⟨_, rfl, between_weighted ha (hvs _ (nth_mem ..)) (hvs _ (nth_mem ..)) hweight⟩

/-! ## Summaries -/

theorem Summary.inRange_of_between {first : Float} {rest : List Float} (ha : a ≤ 480)
    (hvs : ∀ v ∈ first :: rest, Between 0 (2 ^ a) v) (hcount : (first :: rest).length ≤ 2 ^ 53) :
    Summary.InRange first rest := by
  have hrange : ∀ {b x}, b ≤ 962 → Between 0 (2 ^ b) x → HasHundredfold x := fun hb hx =>
    hasHundredfold_of_between hx.symm_of_nonneg hb
  have hmean := between_meanOf (by omega) hvs (List.cons_ne_nil first rest) hcount
  obtain ⟨v, hv, hvariance⟩ := exists_varianceAround (by omega) hmean hvs (List.cons_ne_nil first rest) hcount
  have hroot : Between 0 (2 ^ (a + 1)) v.sqrt := by
    refine hvariance.sqrt (mark_two_pow (by omega)) (by positivity) ?_
    rw [← pow_mul]
    exact pow_le_pow_right₀ one_le_two (by omega)
  refine ⟨hrange (by omega) hmean, fun p hp => ?_, ⟨?_, ?_⟩, exists_varianceAround_iff.1 ⟨v, hv⟩,
    fun v' hv' => ?_⟩
  · obtain ⟨p, rfl⟩ : ∃ n : ℕ, p = n := by
      simp only [List.mem_cons, List.not_mem_nil, or_false] at hp
      exact ⟨p.toNat, by omega⟩
    have hp' : p ≤ 100 := by
      simp only [List.mem_cons, List.not_mem_nil, or_false] at hp
      omega
    obtain ⟨q, hq, hbetween⟩ := exists_interpolate (by omega) hp' hvs hcount
    exact ⟨q, hq, hrange (by omega) hbetween⟩
  · exact hrange (by omega) (hvs _ (List.mem_cons_self ..))
  · exact hrange (by omega) (hvs _ (nth_mem ..))
  · cases hv.symm.trans hv'
    exact ⟨hrange (by omega) hvariance, hrange (by omega) hroot⟩

/-! ## Rounded figures -/

/-- A figure that is rounded to two decimals is zero or at least about a hundredth. -/
theorem cases_of_round2 (ha : a ≤ 962) (hx : Between 0 (2 ^ a) x) (h : round2 x = .ok y) :
    y = ofInt 0 / ofInt 100 ∨ Between (2 ^ (-7 : ℤ)) (2 ^ (a + 8)) y := by
  obtain ⟨n, hbelow, habove, rfl⟩ := exists_of_round2 h
  have hmark := mark_two_pow (k := a + 8) (by omega)
  have hwhole : Between 0 (2 ^ (a + 8)) (x * ofInt 100 + decimal 5 1) := by
    have hpow : (1 : ℝ) ≤ 2 ^ (a + 7) := one_le_pow₀ one_le_two
    have hmul : Between 0 (2 ^ (a + 7)) (x * ofInt 100) := by
      refine hx.mul_of_nonneg (between_hundred.mono (by norm_num) le_rfl) (mark_two_pow (by omega)) ?_
      rw [pow_add]
      exact mul_le_mul_of_nonneg_left (by norm_num) (by positivity)
    refine hmul.add between_half mark_zero hmark (by norm_num) ?_
    rw [pow_succ 2 (a + 7)]
    linarith
  rcases (nonneg_of_lt_add_one hwhole.le habove).eq_or_lt with rfl | hpos
  · exact .inl rfl
  · right
    have hcount : Between 1 (2 ^ (a + 8)) (ofInt n) :=
      rounds_ofInt n 1 _ mark_one hmark (by exact_mod_cast hpos) (hbelow.trans hwhole.ge)
    have hnumber : number (ofInt 100) = 100 := le_antisymm between_hundred.ge between_hundred.le
    have hlow : Mark (2 ^ (-7 : ℤ)) := ⟨1, -7, by decide, by decide, by decide, by simp⟩
    refine rounds_div hcount.finite between_hundred.finite (by rw [hnumber]; norm_num) _ _ hlow hmark ?_ ?_
    · rw [hnumber, le_div_iff₀ (by norm_num)]
      refine le_trans ?_ hcount.le
      norm_num
    · rw [hnumber]
      refine (div_le_self (by linarith [hcount.le]) (by norm_num)).trans hcount.ge

end SiteTrial
