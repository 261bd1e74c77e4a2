import SiteTrial.Proofs.Statistics.Row

/-!
# Two sorted rows merged

Where the values stand in an order, two sorted rows are merged into one, from whichever end and at
whichever pace.

* `Rows.Merging` : what a merging keeps; `Rows.Merging.takeFirst`, `Rows.Merging.takeSecond` : when values
  of a row can be taken;
* `Rows.Ends`, `Rows.Merging.settle` : when a merging is over;
* `Rows.Merging.takeFirst_of_wins`, `Rows.Merging.takeSecond_of_wins` : the row that wins may give values;
* `Rows.Merging.leap` : many values taken at once;
* `merged_mergeRounds`, `merged_mergeRows` : what the merging ends in;
* `merged_merge` : two rows become one.
-/

namespace SiteTrial.Sorted

variable {α : Type} {lt : α → α → Bool} {p : α → Prop}

/-! ## What a merging keeps -/

namespace Rows

def size (r : Rows α) : Nat := r.first.length + r.second.length

/-- Both rows have values left. -/
def Live (r : Rows α) : Prop := r.first ≠ [] ∧ r.second ≠ []

/-- What is known of the last value of the row that was the shorter one: it comes behind the other row. -/
def EndsLast (lt : α → α → Bool) (r : Rows α) : Prop :=
  match r.direction with
  | .front => ∀ v, r.first.getLast? = some v → ∀ w ∈ r.second, Direction.front.Before lt w v
  | .back => ∀ w, r.second.getLast? = some w → ∀ v ∈ r.first, Direction.back.Before lt v w

/-- What a merging keeps: the values, the order of those that are taken and of either row, and that no
taken value comes behind one that is left. -/
structure Merging (lt : α → α → Bool) (p : α → Prop) (d : Direction) (vs : List α) (r : Rows α) :
    Prop where
  direction : r.direction = d
  perm : (r.taken.reverse ++ (r.first ++ r.second)).Perm vs
  taken : Row lt p d r.taken.reverse
  first : Row lt p d r.first
  second : Row lt p d r.second
  below : ∀ a ∈ r.taken, ∀ b ∈ r.first ++ r.second, d.Before lt a b
  last : r.EndsLast lt

namespace Merging

variable {d : Direction} {r : Rows α} {vs : List α} {n : Nat}

/-- Values of the first row that come before the second row can be taken. -/
theorem takeFirst (h : r.Merging lt p d vs)
    (hn : ∀ a ∈ r.first.take n, ∀ w ∈ r.second, d.Before lt a w) :
    (r.takeFirst n).Merging lt p d vs where
  direction := h.direction
  perm := by
    have hperm := h.perm
    rw [← List.take_append_drop n r.first, List.append_assoc, ← List.append_assoc] at hperm
    rw [Rows.takeFirst, List.reverse_append, List.reverse_reverse]
    exact hperm
  taken := by
    rw [Rows.takeFirst, List.reverse_append, List.reverse_reverse]
    refine Row.append_iff.2 ⟨h.taken, h.first.take n, fun a ha b hb => ?_⟩
    exact h.below a (List.mem_reverse.1 ha) b (List.mem_append_left _ (List.mem_of_mem_take hb))
  first := h.first.drop n
  second := h.second
  below := by
    intro a ha b hb
    rcases List.mem_append.1 ha with ha | ha
    · rcases List.mem_append.1 hb with hb | hb
      · exact h.first.take_drop n a (List.mem_reverse.1 ha) b hb
      · exact hn a (List.mem_reverse.1 ha) b hb
    · refine h.below a ha b ?_
      rcases List.mem_append.1 hb with hb | hb
      · exact List.mem_append_left _ (List.mem_of_mem_drop hb)
      · exact List.mem_append_right _ hb
  last := by
    have hlast := h.last
    unfold EndsLast at hlast ⊢
    cases hd : r.direction with
    | front =>
        simp only [Rows.takeFirst, hd] at hlast ⊢
        intro v hv
        rw [List.getLast?_drop] at hv
        split at hv
        · cases hv
        · exact hlast v hv
    | back =>
        simp only [Rows.takeFirst, hd] at hlast ⊢
        exact fun w hw v hv => hlast w hw v (List.mem_of_mem_drop hv)

/-- Values of the second row that come before the first row can be taken. -/
theorem takeSecond (h : r.Merging lt p d vs)
    (hn : ∀ b ∈ r.second.take n, ∀ v ∈ r.first, d.Before lt b v) :
    (r.takeSecond n).Merging lt p d vs where
  direction := h.direction
  perm := by
    refine List.Perm.trans ?_ h.perm
    rw [Rows.takeSecond, List.reverse_append, List.reverse_reverse, List.append_assoc]
    refine List.Perm.append_left _ ((List.perm_append_comm_assoc _ _ _).trans ?_)
    rw [List.take_append_drop]
  taken := by
    rw [Rows.takeSecond, List.reverse_append, List.reverse_reverse]
    refine Row.append_iff.2 ⟨h.taken, h.second.take n, fun a ha b hb => ?_⟩
    exact h.below a (List.mem_reverse.1 ha) b (List.mem_append_right _ (List.mem_of_mem_take hb))
  first := h.first
  second := h.second.drop n
  below := by
    intro a ha b hb
    rcases List.mem_append.1 ha with ha | ha
    · rcases List.mem_append.1 hb with hb | hb
      · exact hn a (List.mem_reverse.1 ha) b hb
      · exact h.second.take_drop n a (List.mem_reverse.1 ha) b hb
    · refine h.below a ha b ?_
      rcases List.mem_append.1 hb with hb | hb
      · exact List.mem_append_left _ hb
      · exact List.mem_append_right _ (List.mem_of_mem_drop hb)
  last := by
    have hlast := h.last
    unfold EndsLast at hlast ⊢
    cases hd : r.direction with
    | front =>
        simp only [Rows.takeSecond, hd] at hlast ⊢
        exact fun v hv w hw => hlast v hv w (List.mem_of_mem_drop hw)
    | back =>
        simp only [Rows.takeSecond, hd] at hlast ⊢
        intro w hw
        rw [List.getLast?_drop] at hw
        split at hw
        · cases hw
        · exact hlast w hw

/-- A merging is over when what is left of the two rows is in order. -/
theorem close (h : r.Merging lt p d vs) {rest : List α} (hperm : rest.Perm (r.first ++ r.second))
    (hrest : rest.Pairwise (d.Before lt)) : Merged lt p d vs (r.close rest) where
  perm := (hperm.append_left _).trans h.perm
  row := by
    refine Row.append_iff.2 ⟨h.taken, ⟨fun a ha => ?_, hrest⟩, fun a ha b hb => ?_⟩
    · rcases List.mem_append.1 (hperm.mem_iff.1 ha) with ha | ha
      · exact h.first.all a ha
      · exact h.second.all a ha
    · exact h.below a (List.mem_reverse.1 ha) b (hperm.mem_iff.1 hb)

end Merging

/-! ## The end of a merging -/

/-- A merging that is over has brought the values into order, and one that goes on is in some state. -/
def Ends {β : Type} (lt : α → α → Bool) (p : α → Prop) (d : Direction) (vs : List α) (goesOn : β → Prop) :
    Except (List α) β → Prop
  | .error done => Merged lt p d vs done
  | .ok b => goesOn b

theorem Ends.bind {β γ : Type} {d : Direction} {vs : List α} {P : β → Prop} {Q : γ → Prop}
    {x : Except (List α) β} {f : β → Except (List α) γ} (h : Ends lt p d vs P x)
    (hf : ∀ b, P b → Ends lt p d vs Q (f b)) : Ends lt p d vs Q (x >>= f) := by
  cases x with
  | error done => exact h
  | ok b => exact hf b h

theorem Merging.settle {d : Direction} {r : Rows α} {vs : List α} (h : r.Merging lt p d vs) :
    Ends lt p d vs (fun s => s = r ∧ r.Live) r.settle := by
  obtain rfl := h.direction
  have hlast := h.last
  unfold EndsLast at hlast
  unfold Rows.settle
  split
  · next hempty =>
      refine h.close (List.Perm.refl _) ?_
      rcases Bool.or_eq_true_iff.1 hempty with hnone | hnone
      · rw [List.isEmpty_iff.1 hnone]
        exact h.second.pairwise
      · rw [List.isEmpty_iff.1 hnone, List.append_nil]
        exact h.first.pairwise
  · next hfull =>
      have hlive : r.Live := by
        constructor <;> intro hnone <;> simp [hnone] at hfull
      split
      · next v hdir hrow =>
          refine h.close ?_ (List.pairwise_append.2 ⟨h.second.pairwise, List.pairwise_singleton _ _, ?_⟩)
          · rw [hrow]
            exact List.perm_append_comm
          · rw [hdir] at hlast ⊢
            intro w hw v' hv'
            rw [List.mem_singleton.1 hv']
            exact hlast v (by rw [hrow]; rfl) w hw
      · next w hdir hrow =>
          refine h.close ?_ (List.pairwise_append.2 ⟨h.first.pairwise, List.pairwise_singleton _ _, ?_⟩)
          · rw [hrow]
          · rw [hdir] at hlast ⊢
            intro v hv w' hw'
            rw [List.mem_singleton.1 hw']
            exact hlast w (by rw [hrow]; rfl) v hv
      · exact ⟨rfl, hlive⟩

/-- What goes on behind a state that may be the end. -/
theorem Merging.merged_settle {d : Direction} {r : Rows α} {vs : List α} (h : r.Merging lt p d vs)
    {patience : Nat} {rest : Rows α → List α × Nat} (hrest : r.Live → Merged lt p d vs (rest r).1) :
    Merged lt p d vs (match r.settle with
      | .error done => (done, patience)
      | .ok s => rest s).1 := by
  have hsettle := h.settle
  cases hs : r.settle with
  | error done =>
      rw [hs] at hsettle
      exact hsettle
  | ok s =>
      rw [hs] at hsettle
      obtain ⟨rfl, hlive⟩ := hsettle
      exact hrest hlive

/-! ## Which row wins -/

section Wins

variable {r : Rows α} {a b v w : α}

theorem before_of_secondWins (horder : Orders lt p) (hv : p v) (hw : p w)
    (h : r.secondWins lt v w = true) : r.direction.Before lt w v := by
  unfold secondWins at h
  split at h
  · next hd =>
      rw [hd]
      exact horder.asymm hw hv h
  · next hd =>
      rw [hd]
      exact (Bool.not_eq_true' _).mp h

theorem before_of_not_secondWins (horder : Orders lt p) (hv : p v) (hw : p w)
    (h : r.secondWins lt v w = false) : r.direction.Before lt v w := by
  unfold secondWins at h
  split at h
  · next hd =>
      rw [hd]
      exact h
  · next hd =>
      rw [hd]
      exact horder.asymm hw hv ((Bool.not_eq_false' _).mp h)

/-- A value of the second row wins against whatever a later one wins against. -/
theorem secondWins_of_before (horder : Orders lt p) (ha : p a) (hb : p b) (hv : p v)
    (hab : r.direction.Before lt a b) (h : r.secondWins lt v b = true) : r.secondWins lt v a = true := by
  unfold secondWins at h ⊢
  cases hd : r.direction with
  | front =>
      simp only [hd] at hab h ⊢
      by_contra hno
      rw [horder.trans hv ha hb (Bool.eq_false_of_not_eq_true hno) hab] at h
      cases h
  | back =>
      simp only [hd, Bool.not_eq_true'] at hab h ⊢
      exact horder.trans hv hb ha h hab

/-- A value of the first row wins against whatever a later one wins against. -/
theorem not_secondWins_of_before (horder : Orders lt p) (ha : p a) (hb : p b) (hw : p w)
    (hab : r.direction.Before lt a b) (h : r.secondWins lt b w = false) :
    r.secondWins lt a w = false := by
  unfold secondWins at h ⊢
  cases hd : r.direction with
  | front =>
      simp only [hd] at hab h ⊢
      exact horder.trans ha hb hw hab h
  | back =>
      simp only [hd, Bool.not_eq_false'] at hab h ⊢
      by_contra hno
      rw [horder.trans hb ha hw hab (Bool.eq_false_of_not_eq_true hno)] at h
      cases h

variable {d : Direction} {vs : List α} {n : Nat}

/-- Values of the first row that win against the second one can be taken. -/
theorem Merging.takeFirst_of_wins (horder : Orders lt p) (h : r.Merging lt p d vs) {ws : List α}
    (hsecond : r.second = w :: ws) (hwins : ∀ a ∈ r.first.take n, r.secondWins lt a w = false) :
    (r.takeFirst n).Merging lt p d vs := by
  have hrow := h.second
  rw [hsecond] at hrow
  refine h.takeFirst fun a ha b hb => ?_
  have hfirst := h.first.all a (List.mem_of_mem_take ha)
  obtain rfl := h.direction
  rw [hsecond] at hb
  exact hrow.before_all horder hfirst (before_of_not_secondWins horder hfirst
    (hrow.all w List.mem_cons_self) (hwins a ha)) b hb

/-- Values of the second row that win against the first one can be taken. -/
theorem Merging.takeSecond_of_wins (horder : Orders lt p) (h : r.Merging lt p d vs) {us : List α}
    (hfirst : r.first = v :: us) (hwins : ∀ b ∈ r.second.take n, r.secondWins lt v b = true) :
    (r.takeSecond n).Merging lt p d vs := by
  have hrow := h.first
  rw [hfirst] at hrow
  refine h.takeSecond fun b hb a ha => ?_
  have hsecond := h.second.all b (List.mem_of_mem_take hb)
  obtain rfl := h.direction
  rw [hfirst] at ha
  exact hrow.before_all horder hsecond (before_of_secondWins horder
    (hrow.all v List.mem_cons_self) hsecond (hwins b hb)) a ha

end Wins

/-! ## Taking many values at once -/

section Ahead

variable {d : Direction} {r : Rows α} {vs : List α}

theorem values_ahead {row : List α} {accepts : α → Bool}
    (h : row.Pairwise fun a b => accepts b = true → accepts a = true) :
    (∀ a ∈ row.take (r.ahead accepts row), accepts a = true) ∧
      ∀ a ∈ row.drop (r.ahead accepts row), accepts a = false :=
  (parts_boundary (falls_asked h) fun _ hi => asked_of_length_le hi).values

/-- The values of the first row that are taken at once are those that win against the second row. -/
theorem Merging.firstAhead (horder : Orders lt p) (h : r.Merging lt p d vs) {w : α} {ws : List α}
    (hsecond : r.second = w :: ws) :
    (∀ a ∈ r.first.take (r.firstAhead lt), r.secondWins lt a w = false) ∧
      ∀ a ∈ r.first.drop (r.firstAhead lt), r.secondWins lt a w = true := by
  obtain rfl := h.direction
  have hw : p w := h.second.all w (by rw [hsecond]; exact List.mem_cons_self)
  have hahead : r.firstAhead lt = r.ahead (fun v => !r.secondWins lt v w) r.first := by
    rw [Rows.firstAhead, hsecond]
  have hvalues := @values_ahead _ r r.first (fun v => !r.secondWins lt v w)
    (h.first.pairwise.imp_of_mem fun {a b} ha hb hab hyes => by
      rw [Bool.not_eq_true'] at hyes ⊢
      exact not_secondWins_of_before horder (h.first.all a ha) (h.first.all b hb) hw hab hyes)
  rw [hahead]
  simpa only [Bool.not_eq_true', Bool.not_eq_false'] using hvalues

/-- The values of the second row that are taken at once are those that win against the first row. -/
theorem Merging.secondAhead (horder : Orders lt p) (h : r.Merging lt p d vs) {v : α} {us : List α}
    (hfirst : r.first = v :: us) :
    (∀ b ∈ r.second.take (r.secondAhead lt), r.secondWins lt v b = true) ∧
      ∀ b ∈ r.second.drop (r.secondAhead lt), r.secondWins lt v b = false := by
  obtain rfl := h.direction
  have hv : p v := h.first.all v (by rw [hfirst]; exact List.mem_cons_self)
  have hahead : r.secondAhead lt = r.ahead (r.secondWins lt v) r.second := by
    rw [Rows.secondAhead, hfirst]
  rw [hahead]
  exact values_ahead (h.second.pairwise.imp_of_mem fun {a b} ha hb hab hyes =>
    secondWins_of_before horder (h.second.all a ha) (h.second.all b hb) hv hab hyes)

theorem Merging.takeFirst_ahead (horder : Orders lt p) (h : r.Merging lt p d vs) (hlive : r.Live) :
    (r.takeFirst (r.firstAhead lt)).Merging lt p d vs := by
  obtain ⟨w, ws, hsecond⟩ := List.exists_cons_of_ne_nil hlive.2
  exact h.takeFirst_of_wins horder hsecond (h.firstAhead horder hsecond).1

theorem Merging.takeSecond_ahead (horder : Orders lt p) (h : r.Merging lt p d vs) (hlive : r.Live) :
    (r.takeSecond (r.secondAhead lt)).Merging lt p d vs := by
  obtain ⟨v, us, hfirst⟩ := List.exists_cons_of_ne_nil hlive.1
  exact h.takeSecond_of_wins horder hfirst (h.secondAhead horder hfirst).1

/-- The first value of the second row then wins against what is left of the first row. -/
theorem Merging.takeSecond_one (horder : Orders lt p) (h : r.Merging lt p d vs) (hlive : r.Live)
    (hleft : (r.takeFirst (r.firstAhead lt)).Live) :
    ((r.takeFirst (r.firstAhead lt)).takeSecond 1).Merging lt p d vs := by
  obtain ⟨w, ws, hsecond⟩ := List.exists_cons_of_ne_nil hlive.2
  obtain ⟨v, us, hfirst⟩ := List.exists_cons_of_ne_nil hleft.1
  have hv : v ∈ r.first.drop (r.firstAhead lt) := by
    rw [show r.first.drop (r.firstAhead lt) = v :: us from hfirst]
    exact List.mem_cons_self
  refine (h.takeFirst_ahead horder hlive).takeSecond_of_wins horder hfirst fun b hb => ?_
  rw [show (r.takeFirst (r.firstAhead lt)).second = w :: ws from hsecond] at hb
  rw [List.mem_singleton.1 hb]
  exact (h.firstAhead horder hsecond).2 v hv

/-- The first value of the first row then wins against what is left of the second row. -/
theorem Merging.takeFirst_one (horder : Orders lt p) (h : r.Merging lt p d vs) (hlive : r.Live)
    (hleft : (r.takeSecond (r.secondAhead lt)).Live) :
    ((r.takeSecond (r.secondAhead lt)).takeFirst 1).Merging lt p d vs := by
  obtain ⟨v, us, hfirst⟩ := List.exists_cons_of_ne_nil hlive.1
  obtain ⟨w, ws, hsecond⟩ := List.exists_cons_of_ne_nil hleft.2
  have hw : w ∈ r.second.drop (r.secondAhead lt) := by
    rw [show r.second.drop (r.secondAhead lt) = w :: ws from hsecond]
    exact List.mem_cons_self
  refine (h.takeSecond_ahead horder hlive).takeFirst_of_wins horder hsecond fun a ha => ?_
  rw [show (r.takeSecond (r.secondAhead lt)).first = v :: us from hfirst] at ha
  rw [List.mem_singleton.1 ha]
  exact (h.secondAhead horder hfirst).2 w hw

theorem Merging.leap (horder : Orders lt p) (h : r.Merging lt p d vs) (hlive : r.Live) :
    Ends lt p d vs (fun out => out.2.Merging lt p d vs ∧ out.2.Live ∧ out.2.size < r.size)
      (r.leap lt) := by
  have hsize : 0 < r.second.length := List.length_pos_of_ne_nil hlive.2
  unfold Rows.leap
  refine Ends.bind (h.takeFirst_ahead horder hlive).settle ?_
  rintro _ ⟨rfl, hleft⟩
  have htwo := h.takeSecond_one horder hlive hleft
  refine Ends.bind htwo.settle ?_
  rintro _ ⟨rfl, hlivetwo⟩
  refine Ends.bind (htwo.takeSecond_ahead horder hlivetwo).settle ?_
  rintro _ ⟨rfl, hleft⟩
  have hfour := htwo.takeFirst_one horder hlivetwo hleft
  refine Ends.bind hfour.settle ?_
  rintro _ ⟨rfl, hlivefour⟩
  refine ⟨hfour, hlivefour, ?_⟩
  simp only [size, Rows.takeFirst, Rows.takeSecond, List.length_drop]
  omega

end Ahead

end Rows

open Rows

variable {d : Direction} {r : Rows α} {vs : List α}

/-- A round takes at least one value, so that there are rounds enough. -/
theorem merged_mergeRounds (horder : Orders lt p) {n : Nat} {pace : Pace} {patience : Nat}
    (h : r.Merging lt p d vs) (hlive : r.Live) (hn : r.size ≤ n) :
    Merged lt p d vs (mergeRounds lt n r pace patience).1 := by
  have hpos : 0 < r.first.length := List.length_pos_of_ne_nil hlive.1
  induction n generalizing r pace patience with
  | zero =>
      rw [size] at hn
      omega
  | succ n ih =>
      -- the rest of the rounds, behind one that has taken some values
      have hrest : ∀ {s : Rows α} {pace patience}, s.Merging lt p d vs → s.Live → s.size < r.size →
          Merged lt p d vs (mergeRounds lt n s pace patience).1 := fun hs hslive hsize =>
        ih hs hslive (by omega) (List.length_pos_of_ne_nil hslive.1)
      cases pace with
      | single a b =>
          obtain ⟨v, us, hfirst⟩ := List.exists_cons_of_ne_nil hlive.1
          obtain ⟨w, ws, hsecond⟩ := List.exists_cons_of_ne_nil hlive.2
          unfold mergeRounds
          simp only [hfirst, hsecond]
          cases hwins : r.secondWins lt v w with
          | true =>
              have htaken : (r.takeSecond 1).Merging lt p d vs :=
                h.takeSecond_of_wins horder hfirst fun b hb => by
                  rw [hsecond] at hb
                  rwa [List.mem_singleton.1 hb]
              simp only [reduceIte]
              refine htaken.merged_settle fun hslive => ?_
              have hsize : (r.takeSecond 1).size < r.size := by
                simp [size, takeSecond, hsecond]
              split
              · exact hrest htaken hslive hsize
              · exact hrest htaken hslive hsize
          | false =>
              have htaken : (r.takeFirst 1).Merging lt p d vs :=
                h.takeFirst_of_wins horder hsecond fun a ha => by
                  rw [hfirst] at ha
                  rwa [List.mem_singleton.1 ha]
              simp only [Bool.false_eq_true, reduceIte]
              refine htaken.merged_settle fun hslive => ?_
              have hsize : (r.takeFirst 1).size < r.size := by
                simp [size, takeFirst, hfirst]
              split
              · exact hrest htaken hslive hsize
              · exact hrest htaken hslive hsize
      | leaping =>
          have hleap := h.leap horder hlive
          unfold mergeRounds
          dsimp only
          cases hs : r.leap lt with
          | error done =>
              rw [hs] at hleap
              exact hleap
          | ok out =>
              rw [hs] at hleap
              obtain ⟨hmerging, houtlive, hsize⟩ := hleap
              dsimp only
              split
              · exact hrest hmerging houtlive hsize
              · exact hrest hmerging houtlive hsize

/-- What is known of the first value of the row that was the longer one: it comes before the other row. -/
def Rows.StartsFirst (lt : α → α → Bool) (r : Rows α) : Prop :=
  match r.direction with
  | .front => ∀ w, r.second.head? = some w → ∀ v ∈ r.first, Direction.front.Before lt w v
  | .back => ∀ v, r.first.head? = some v → ∀ w ∈ r.second, Direction.back.Before lt v w

theorem merged_mergeRows (horder : Orders lt p) {patience : Nat} (h : r.Merging lt p d vs)
    (hstarts : r.StartsFirst lt) : Merged lt p d vs (mergeRows lt r patience).1 := by
  obtain rfl := h.direction
  have hsize : (r.takeSecond 1).size ≤ r.first.length + r.second.length ∧
      (r.takeFirst 1).size ≤ r.first.length + r.second.length := by
    simp only [size, takeFirst, takeSecond, List.length_drop]
    omega
  unfold StartsFirst at hstarts
  unfold mergeRows
  cases hd : r.direction with
  | front =>
      simp only [hd] at hstarts h ⊢
      have htaken : (r.takeSecond 1).Merging lt p .front vs := by
        refine h.takeSecond fun b hb => hstarts b ?_
        rwa [List.take_one, Option.mem_toList] at hb
      exact htaken.merged_settle fun hlive => merged_mergeRounds horder htaken hlive hsize.1
  | back =>
      simp only [hd] at hstarts h ⊢
      have htaken : (r.takeFirst 1).Merging lt p .back vs := by
        refine h.takeFirst fun a ha => hstarts a ?_
        rwa [List.take_one, Option.mem_toList] at ha
      exact htaken.merged_settle fun hlive => merged_mergeRounds horder htaken hlive hsize.2

/-! ## Two rows -/

section Two

variable {first second : List α}

/-- The values that come before another row come before all of it, and the others do not come before its
first value. -/
theorem lead_spec (horder : Orders lt p) (hfirst : Row lt p .front first)
    (hsecond : Row lt p .front second) :
    (∀ v ∈ first.take (lead lt first second), ∀ w ∈ second, Direction.front.Before lt v w) ∧
      ∀ w, second.head? = some w → ∀ v ∈ first.drop (lead lt first second), lt w v = true := by
  cases second with
  | nil => exact ⟨by simp, by simp⟩
  | cons w ws =>
      have hw := hsecond.all w List.mem_cons_self
      have hvalues := @Row.values_boundary _ _ _ _ _ horder hfirst w hw (fun v => !lt w v)
        (fun _ => Iff.of_eq (Bool.not_eq_true' _)) true
      refine ⟨fun v hv => ?_, fun w' hw' v hv => ?_⟩
      · have hle := hvalues.1 v hv
        rw [Bool.not_eq_true'] at hle
        exact hsecond.before_all horder (hfirst.all v (List.mem_of_mem_take hv)) hle
      · cases hw'
        have hlt := hvalues.2 v hv
        rwa [Bool.not_eq_false'] at hlt

/-- The values that come behind another row come behind all of it, and the others do not come behind its
last value. -/
theorem trail_spec (horder : Orders lt p) (hfirst : Row lt p .front first)
    (hsecond : Row lt p .front second) :
    (∀ w ∈ second.drop (second.length - trail lt first second), ∀ v ∈ first,
        Direction.front.Before lt v w) ∧
      ∀ v, first.getLast? = some v →
        ∀ w ∈ second.take (second.length - trail lt first second), lt w v = true := by
  unfold trail
  cases hlast : first.getLast? with
  | none =>
      rw [List.getLast?_eq_none_iff.1 hlast]
      exact ⟨by simp, by simp⟩
  | some v =>
      have hback : Row lt p .back first.reverse := Row.reverse_iff.2 hfirst
      obtain ⟨us, hus⟩ := List.head?_eq_some_iff.1 (List.head?_reverse.trans hlast)
      rw [hus] at hback
      have hv := hback.all v List.mem_cons_self
      have hreversed := Row.reverse_iff.2 hsecond
      have hvalues := @Row.values_boundary _ _ _ _ _ horder hreversed v hv (fun w => !lt w v)
        (fun _ => Iff.of_eq (Bool.not_eq_true' _)) false
      rw [List.length_reverse, List.take_reverse, List.drop_reverse] at hvalues
      refine ⟨fun w hw u hu => ?_, fun v' hv' w hw => ?_⟩
      · have hle := hvalues.1 w (List.mem_reverse.2 hw)
        rw [Bool.not_eq_true'] at hle
        exact hback.before_all horder (hsecond.all w (List.mem_of_mem_drop hw)) hle u
          (hus ▸ List.mem_reverse.2 hu)
      · cases hv'
        have hlt := hvalues.2 w (List.mem_reverse.2 hw)
        rwa [Bool.not_eq_false'] at hlt

/-- Two rows of which none comes before or behind the other one become one. -/
theorem merged_mergeMiddle (horder : Orders lt p) {patience : Nat} (hfirst : Row lt p .front first)
    (hsecond : Row lt p .front second)
    (hlead : ∀ w, second.head? = some w → ∀ v ∈ first, lt w v = true)
    (htrail : ∀ v, first.getLast? = some v → ∀ w ∈ second, lt w v = true) :
    Merged lt p .front (first ++ second) (mergeMiddle lt first second patience).1 := by
  have hbefore : ∀ w, second.head? = some w → ∀ v ∈ first, lt v w = false := fun w hw v hv =>
    horder.asymm (hsecond.all w (List.mem_of_mem_head? hw)) (hfirst.all v hv) (hlead w hw v hv)
  have hbehind : ∀ v, first.getLast? = some v → ∀ w ∈ second, lt v w = false := fun v hv w hw =>
    horder.asymm (hsecond.all w hw) (hfirst.all v (List.mem_of_getLast? hv)) (htrail v hv w hw)
  unfold mergeMiddle
  split
  · next hempty =>
      rcases Bool.or_eq_true_iff.1 hempty with hnone | hnone
      · rw [List.isEmpty_iff.1 hnone]
        exact ⟨List.Perm.refl _, hsecond⟩
      · rw [List.isEmpty_iff.1 hnone, List.append_nil]
        exact ⟨List.Perm.refl _, hfirst⟩
  · split
    · exact merged_mergeRows horder
        { direction := rfl, perm := List.Perm.refl _, taken := Row.nil, first := hfirst
          second := hsecond, below := by simp, last := hbehind } hbefore
    · have hmerged : Merged lt p .back (first ++ second)
          (mergeRows lt ⟨.back, first.reverse, second.reverse, []⟩ patience).1 := by
        refine merged_mergeRows horder
          { direction := rfl, perm := ?_, taken := Row.nil, first := Row.reverse_iff.2 hfirst
            second := Row.reverse_iff.2 hsecond, below := by simp, last := ?_ } ?_
        · exact (List.reverse_perm first).append (List.reverse_perm second)
        · intro w hw v hv
          rw [List.getLast?_reverse] at hw
          exact hbefore w hw v (List.mem_reverse.1 hv)
        · intro v hv w hw
          rw [List.head?_reverse] at hv
          exact hbehind v hv w (List.mem_reverse.1 hw)
      exact ⟨(List.reverse_perm _).trans hmerged.perm,
        Row.reverse_iff.1 (by rw [List.reverse_reverse]; exact hmerged.row)⟩

/-- Two sorted rows become one. -/
theorem merged_merge (horder : Orders lt p) {patience : Nat} (hfirst : Row lt p .front first)
    (hsecond : Row lt p .front second) :
    Merged lt p .front (first ++ second) (merge lt first second patience).1 := by
  obtain ⟨hbefore, hlead⟩ := lead_spec horder hfirst hsecond
  unfold merge
  dsimp only
  generalize lead lt first second = head at hbefore hlead ⊢
  obtain ⟨hbehind, htrail⟩ := trail_spec horder (hfirst.drop head) hsecond
  have hlength : (second.take (second.length - trail lt (first.drop head) second)).length =
      second.length - trail lt (first.drop head) second := by
    rw [List.length_take]
    omega
  rw [hlength]
  generalize second.length - trail lt (first.drop head) second = kept at hbehind htrail hlength ⊢
  have hmiddle : Merged lt p .front (first.drop head ++ second.take kept)
      (mergeMiddle lt (first.drop head) (second.take kept) patience).1 := by
    refine merged_mergeMiddle horder (hfirst.drop head) (hsecond.take kept) (fun w hw => ?_) htrail
    rw [List.head?_take] at hw
    split at hw
    · cases hw
    · exact hlead w hw
  generalize (mergeMiddle lt (first.drop head) (second.take kept) patience).1 = middle at hmiddle ⊢
  constructor
  · refine ((hmiddle.perm.append_left _).append_right _).trans (List.Perm.of_eq ?_)
    rw [← List.append_assoc, List.take_append_drop, List.append_assoc, List.take_append_drop]
  · have hlower : ∀ a ∈ first.take head, ∀ b ∈ middle, Direction.front.Before lt a b := by
      intro a ha b hb
      rcases List.mem_append.1 (hmiddle.perm.mem_iff.1 hb) with hb | hb
      · exact hfirst.take_drop head a ha b hb
      · exact hbefore a ha b (List.mem_of_mem_take hb)
    have hupper : ∀ a ∈ first.take head ++ middle, ∀ b ∈ second.drop kept,
        Direction.front.Before lt a b := by
      intro a ha b hb
      rcases List.mem_append.1 ha with ha | ha
      · exact hbefore a ha b (List.mem_of_mem_drop hb)
      · rcases List.mem_append.1 (hmiddle.perm.mem_iff.1 ha) with ha | ha
        · exact hbehind b hb a ha
        · exact hsecond.take_drop kept a ha b hb
    exact Row.append_iff.2 ⟨Row.append_iff.2 ⟨hfirst.take head, hmiddle.row, hlower⟩,
      hsecond.drop kept, hupper⟩

end Two

end SiteTrial.Sorted
