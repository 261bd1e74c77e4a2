import SiteTrial.Statistics.Sorted
import SiteTrial.Proofs.Statistics.Merge

/-!
# Sorted measurements

Values that stand in an order are brought into it, whichever runs they come in and whichever of these are
merged first.

* `run_spec`, `merged_insert`, `filledRun_spec` : the runs that are found;
* `Gives` : what a step of sorting gives, wherever the merging stands;
* `Stack` : what is kept while runs are found and merged;
* `merged_sorted` : the values in their order; `sorted_eq_of_perm` : there is only one such order.
-/

namespace SiteTrial.Sorted

variable {α : Type} {lt : α → α → Bool} {p : α → Prop} {vs : List α}

/-! ## Runs -/

theorem extend_spec (horder : Orders lt p) {d : Direction} {more : α → α → Bool} {taken rest : List α}
    (hmore : ∀ v last, p v → p last → more v last = true → d.Before lt v last)
    (htaken : Row lt p d taken) (hrest : ∀ a ∈ rest, p a) :
    Row lt p d (extend more taken rest).1 ∧
      (extend more taken rest).1.reverse ++ (extend more taken rest).2 = taken.reverse ++ rest ∧
      taken.length ≤ (extend more taken rest).1.length := by
  fun_induction extend more taken rest with
  | case1 last taken v rest hyes ih =>
      have hv := hrest v List.mem_cons_self
      have hlonger : Row lt p d (v :: last :: taken) := Row.cons_iff.2 ⟨hv,
        htaken.before_all horder hv (hmore v last hv (htaken.all last List.mem_cons_self) hyes), htaken⟩
      obtain ⟨hrow, hsame, hlength⟩ := ih hlonger fun a ha => hrest a (List.mem_cons_of_mem _ ha)
      refine ⟨hrow, hsame.trans ?_, Nat.le_of_succ_le hlength⟩
      rw [List.reverse_cons, List.append_assoc]
      rfl
  | case2 last taken v rest hno => exact ⟨htaken, rfl, Nat.le_refl _⟩
  | case3 taken rest hend => exact ⟨htaken, rfl, Nat.le_refl _⟩

/-- The run in front is in order, nothing is lost, and there is a run if there are values. -/
theorem run_spec (horder : Orders lt p) (hall : ∀ a ∈ vs, p a) :
    Row lt p .front (run lt vs).1 ∧ ((run lt vs).1 ++ (run lt vs).2).Perm vs ∧
      (vs ≠ [] → (run lt vs).1 ≠ []) := by
  unfold run
  split
  · next a b rest =>
      have ha := hall a List.mem_cons_self
      have hb := hall b (List.mem_cons_of_mem _ List.mem_cons_self)
      have hrest : ∀ v ∈ rest, p v := fun v hv =>
        hall v (List.mem_cons_of_mem _ (List.mem_cons_of_mem _ hv))
      -- the two values in front are in order, last one first, in the direction of the run
      have htwo : ∀ {d : Direction}, d.Before lt b a → Row lt p d [b, a] := fun hba =>
        Row.cons_iff.2 ⟨hb, by simpa using hba, Row.cons_iff.2 ⟨ha, by simp, Row.nil⟩⟩
      split
      · next hfalls =>
          obtain ⟨hrow, hsame, hlength⟩ := @extend_spec _ _ _ horder .front lt _ _
            (fun v last hv hlast hlt => horder.asymm hv hlast hlt)
            (htwo (horder.asymm hb ha hfalls)) hrest
          refine ⟨hrow, ?_, fun _ => List.ne_nil_of_length_pos (Nat.lt_of_lt_of_le Nat.two_pos hlength)⟩
          exact ((List.reverse_perm _).symm.append_right _).trans (List.Perm.of_eq hsame)
      · next hrises =>
          obtain ⟨hrow, hsame, hlength⟩ := @extend_spec _ _ _ horder .back
            (fun v last => !lt v last) _ _ (fun v last hv hlast hle => (Bool.not_eq_true' _).mp hle)
            (htwo (Bool.eq_false_of_not_eq_true hrises)) hrest
          generalize extend (fun v last => !lt v last) [b, a] rest = found at hrow hsame hlength
          obtain ⟨taken, rest'⟩ := found
          refine ⟨Row.reverse_iff.1 (by rwa [List.reverse_reverse]), List.Perm.of_eq hsame, fun _ => ?_⟩
          have htaken : taken ≠ [] := List.ne_nil_of_length_pos (Nat.lt_of_lt_of_le Nat.two_pos hlength)
          exact List.reverse_ne_nil_iff.2 htaken
  · next hshort =>
      refine ⟨⟨hall, ?_⟩, by rw [List.append_nil], id⟩
      match vs, hshort with
      | [], _ => exact .nil
      | [a], _ => exact List.pairwise_singleton _ _
      | a :: b :: rest, hshort => exact absurd rfl (hshort a b rest)

/-- A value is put into a row at its place. -/
theorem merged_insert (horder : Orders lt p) (hrow : Row lt p .front vs) {v : α} (hv : p v) :
    Merged lt p .front (v :: vs) (insert lt vs v) := by
  have hfalls : Falls (asked vs fun w => !lt v w) vs.length :=
    hrow.falls_before horder hv fun _ => Iff.of_eq (Bool.not_eq_true' _)
  obtain ⟨hbelow, habove⟩ := (@parts_bisect _ true _ _ hfalls (Nat.zero_le _)).values
  unfold insert
  dsimp only
  change Merged lt p .front (v :: vs)
    (vs.take (bisect true (asked vs fun w => !lt v w) 0 vs.length) ++
      v :: vs.drop (bisect true (asked vs fun w => !lt v w) 0 vs.length))
  generalize bisect true (asked vs fun w => !lt v w) 0 vs.length = n at hbelow habove ⊢
  constructor
  · refine List.perm_middle.trans (List.Perm.of_eq ?_)
    rw [List.take_append_drop]
  · have hbefore : ∀ b ∈ vs.drop n, Direction.front.Before lt v b := fun b hb =>
      horder.asymm hv (hrow.all b (List.mem_of_mem_drop hb)) (by simpa using habove b hb)
    refine Row.append_iff.2 ⟨hrow.take n, Row.cons_iff.2 ⟨hv, hbefore, hrow.drop n⟩, fun a ha b hb => ?_⟩
    rcases List.mem_cons.1 hb with rfl | hb
    · exact (Bool.not_eq_true' _).mp (hbelow a ha)
    · exact hrow.take_drop n a ha b hb

theorem merged_foldl_insert (horder : Orders lt p) {ws : List α} (hrow : Row lt p .front vs)
    (hws : ∀ a ∈ ws, p a) : Merged lt p .front (vs ++ ws) (ws.foldl (insert lt) vs) := by
  induction ws generalizing vs with
  | nil =>
      rw [List.append_nil]
      exact ⟨List.Perm.refl _, hrow⟩
  | cons w ws ih =>
      have hinsert := merged_insert horder hrow (hws w List.mem_cons_self)
      have hrest := ih hinsert.row fun a ha => hws a (List.mem_cons_of_mem _ ha)
      exact ⟨hrest.perm.trans ((hinsert.perm.append_right ws).trans List.perm_middle.symm), hrest.row⟩

theorem filledRun_spec (horder : Orders lt p) (least : Nat) (hall : ∀ a ∈ vs, p a) (hsome : vs ≠ []) :
    Row lt p .front (filledRun lt least vs).1 ∧
      ((filledRun lt least vs).1 ++ (filledRun lt least vs).2).Perm vs ∧
      (filledRun lt least vs).1 ≠ [] := by
  obtain ⟨hrow, hperm, hfront⟩ := run_spec horder hall
  unfold filledRun
  generalize run lt vs = found at hrow hperm hfront
  obtain ⟨front, rest⟩ := found
  dsimp only at hrow hperm hfront ⊢
  have hrest : ∀ a ∈ rest, p a := fun a ha => hall a (hperm.mem_iff.1 (List.mem_append_right _ ha))
  have hfilled := merged_foldl_insert horder hrow fun a (ha : a ∈ rest.take (least - front.length)) =>
    hrest a (List.mem_of_mem_take ha)
  refine ⟨hfilled.row, ?_, fun hnone => ?_⟩
  · refine ((hfilled.perm.append_right _).trans (List.Perm.of_eq ?_)).trans hperm
    rw [List.append_assoc, List.take_append_drop]
  · rw [hnone] at hfilled
    exact hfront hsome (List.append_eq_nil_iff.1 hfilled.perm.symm.eq_nil).1

/-! ## Merging runs -/

/-- What a step of sorting gives, whatever the patience it begins with. -/
def Gives {β : Type} (Q : β → Prop) (x : Sorting β) : Prop := ∀ patience, Q (x.run patience).1

theorem Gives.pure {β : Type} {Q : β → Prop} {b : β} (h : Q b) : Gives Q (pure b) := fun _ => h

theorem Gives.bind {β γ : Type} {P : β → Prop} {Q : γ → Prop} {x : Sorting β} {f : β → Sorting γ}
    (h : Gives P x) (hf : ∀ b, P b → Gives Q (f b)) : Gives Q (x >>= f) := fun patience =>
  hf _ (h patience) (x.run patience).2

theorem gives_join (horder : Orders lt p) {a b : Placed α} (ha : Row lt p .front a.values)
    (hb : Row lt p .front b.values) :
    Gives (fun c => Merged lt p .front (a.values ++ b.values) c.values) (join lt a b) := fun _ =>
  merged_merge horder ha hb

/-- Runs, last one first, that hold some values between them. -/
structure Stack (lt : α → α → Bool) (p : α → Prop) (vs : List α) (runs : List (Placed α)) : Prop where
  rows : ∀ r ∈ runs, Row lt p .front r.values
  perm : (runs.flatMap Placed.values).Perm vs

namespace Stack

variable {a b : Placed α} {runs : List (Placed α)}

/-- Two neighbours may become one. -/
theorem join {c : Placed α} (h : Stack lt p vs (b :: a :: runs))
    (hc : Merged lt p .front (a.values ++ b.values) c.values) : Stack lt p vs (c :: runs) where
  rows := List.forall_mem_cons.2 ⟨hc.row, fun r hr =>
    h.rows r (List.mem_cons_of_mem _ (List.mem_cons_of_mem _ hr))⟩
  perm := by
    refine List.Perm.trans ?_ h.perm
    rw [List.flatMap_cons, List.flatMap_cons, List.flatMap_cons, ← List.append_assoc]
    exact (hc.perm.trans List.perm_append_comm).append_right _

theorem setDepth (h : Stack lt p vs (a :: runs)) (depth : Nat) :
    Stack lt p vs ({ a with depth := depth } :: runs) :=
  ⟨List.forall_mem_cons.2 (List.forall_mem_cons.1 h.rows), h.perm⟩

/-- The runs may stand in another order. -/
theorem of_perm {runs' : List (Placed α)} (h : Stack lt p vs runs) (hperm : runs'.Perm runs) :
    Stack lt p vs runs' :=
  ⟨fun r hr => h.rows r (hperm.mem_iff.1 hr), (hperm.flatMap_right _).trans h.perm⟩

end Stack

theorem gives_joinDeeper (horder : Orders lt p) {depth : Nat} {runs : List (Placed α)}
    (h : Stack lt p vs runs) : Gives (Stack lt p vs) (joinDeeper lt depth runs) := by
  fun_induction joinDeeper lt depth runs with
  | case1 b a rest hdeeper ih =>
      refine Gives.bind (gives_join horder (h.rows a (by simp)) (h.rows b (by simp))) fun c hc => ?_
      exact ih c (h.join hc)
  | case2 b a rest hdeeper => exact .pure h
  | case3 runs hshort => exact .pure h

/-- A round makes one run of two, so that there are rounds enough. -/
theorem gives_joinAll (horder : Orders lt p) {n : Nat} {runs : List (Placed α)}
    (h : Stack lt p vs runs) (hn : runs.length ≤ n) :
    Gives (Merged lt p .front vs) (joinAll lt n runs) := by
  induction n generalizing runs with
  | zero =>
      obtain rfl := List.length_eq_zero_iff.1 (Nat.le_zero.1 hn)
      exact .pure ⟨h.perm, Row.nil⟩
  | succ n ih =>
      match runs, h with
      | [], h => exact .pure ⟨h.perm, Row.nil⟩
      | [a], h =>
          refine .pure ⟨?_, h.rows a (by simp)⟩
          simpa using h.perm
      | [c, b], h =>
          refine Gives.bind (gives_join horder (h.rows b (by simp)) (h.rows c (by simp))) fun d hd => ?_
          exact ih (h.join hd) (Nat.le_of_succ_le_succ hn)
      | c :: b :: a :: rest, h =>
          unfold joinAll
          dsimp only
          split
          · refine Gives.bind (gives_join horder (h.rows a (by simp)) (h.rows b (by simp))) fun d hd => ?_
            -- the two stand in front once the last run is moved behind them
            have hfront : Stack lt p vs (b :: a :: c :: rest) :=
              h.of_perm (@List.perm_middle _ c [b, a] rest)
            exact ih ((hfront.join hd).of_perm (.swap d c rest)) (Nat.le_of_succ_le_succ hn)
          · refine Gives.bind (gives_join horder (h.rows b (by simp)) (h.rows c (by simp))) fun d hd => ?_
            exact ih (h.join hd) (Nat.le_of_succ_le_succ hn)

/-! ## Sorting -/

/-- A round finds a run, so that there are rounds enough. -/
theorem gives_collect (horder : Orders lt p) {count n start : Nat} {all rest : List α}
    {runs : List (Placed α)} (hrows : ∀ r ∈ runs, Row lt p .front r.values) (hrest : ∀ a ∈ rest, p a)
    (hperm : (runs.flatMap Placed.values ++ rest).Perm all) (hn : rest.length ≤ n) :
    Gives (Stack lt p all) (collect lt count n start runs rest) := by
  induction n generalizing start rest runs with
  | zero =>
      obtain rfl := List.length_eq_zero_iff.1 (Nat.le_zero.1 hn)
      rw [List.append_nil] at hperm
      exact .pure ⟨hrows, hperm⟩
  | succ n ih =>
      unfold collect
      split
      · next hnone =>
          rw [List.isEmpty_iff.1 hnone, List.append_nil] at hperm
          exact .pure ⟨hrows, hperm⟩
      · next hsome =>
          rw [List.isEmpty_iff] at hsome
          obtain ⟨hrow, hfound, hfront⟩ := filledRun_spec horder (leastRun count) hrest hsome
          generalize filledRun lt (leastRun count) rest = found at hrow hfound hfront
          obtain ⟨values, behind⟩ := found
          dsimp only at hrow hfound hfront ⊢
          have hlength : values.length + behind.length = rest.length := by
            rw [← List.length_append]
            exact hfound.length_eq
          have hpos := List.length_pos_of_ne_nil hfront
          have hstack : Stack lt p (runs.flatMap Placed.values) runs := ⟨hrows, .refl _⟩
          -- what is found behind the run, once some of the runs before it are merged
          have hnext : ∀ merged, Stack lt p (runs.flatMap Placed.values) merged →
              Gives (Stack lt p all) (collect lt count n (start + values.length)
                ({ start := start, values := values } :: merged) behind) := by
            intro merged hmerged
            refine ih (List.forall_mem_cons.2 ⟨hrow, hmerged.rows⟩) (fun a ha => ?_) ?_ (by omega)
            · exact hrest a (hfound.mem_iff.1 (List.mem_append_right _ ha))
            · refine List.Perm.trans ?_ hperm
              rw [List.flatMap_cons, List.append_assoc]
              refine (List.perm_append_comm_assoc _ _ _).trans ?_
              exact hmerged.perm.append hfound
          cases runs with
          | nil => exact hnext [] hstack
          | cons top older =>
              refine Gives.bind (gives_joinDeeper horder hstack) fun merged hmerged => ?_
              cases merged with
              | nil => exact hnext [] hmerged
              | cons top older => exact hnext _ (hmerged.setDepth _)

/-- Values that stand in an order are brought into it. -/
theorem merged_sorted (horder : Orders lt p) (hall : ∀ a ∈ vs, p a) :
    Merged lt p .front vs (sorted lt vs) := by
  have hcollect : Gives (Stack lt p vs) (collect lt vs.length (vs.length + 1) 0 [] vs) :=
    gives_collect horder (by simp) hall (.refl _) (Nat.le_succ _)
  exact (hcollect.bind fun runs hruns => gives_joinAll horder hruns (Nat.le_refl _)) leastLeap

/-- Where different values are never equal in the order, their first order does not matter. -/
theorem sorted_eq_of_perm (horder : Orders lt p)
    (hantisymm : ∀ a b, p a → p b → lt a b = false → lt b a = false → a = b) {ws : List α}
    (hall : ∀ a ∈ vs, p a) (hperm : ws.Perm vs) : sorted lt ws = sorted lt vs := by
  have hvs := merged_sorted horder hall
  have hws := merged_sorted horder fun a ha => hall a (hperm.mem_iff.1 ha)
  refine (hws.perm.trans (hperm.trans hvs.perm.symm)).eq_of_pairwise ?_
    hws.row.pairwise hvs.row.pairwise
  intro a b ha hb hab hba
  exact hantisymm a b (hws.row.all a ha) (hvs.row.all b hb) hba hab

end SiteTrial.Sorted
