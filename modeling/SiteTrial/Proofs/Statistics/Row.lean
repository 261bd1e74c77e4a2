import SiteTrial.Proofs.Statistics.Search
import SiteTrial.Statistics.Merge

/-!
# Rows in an order

* `Orders` : some values stand in an order, in which several may be equal;
* `Direction.Before` : which of two values may be taken first, from either end;
* `Row` : values that stand in the order; `Row.append_iff`, `Row.cons_iff`, `Row.reverse_iff` : rows made
  of others; `Row.before_all` : what comes before the first value;
* `Row.falls_before`, `Row.values_boundary` : the values that come before another one stand in front;
* `Merged` : values that were brought into the order.
-/

namespace SiteTrial.Sorted

variable {α : Type} {lt : α → α → Bool} {p : α → Prop}

structure Orders (lt : α → α → Bool) (p : α → Prop) : Prop where
  asymm : ∀ {a b}, p a → p b → lt a b = true → lt b a = false
  trans : ∀ {a b c}, p a → p b → p c → lt b a = false → lt c b = false → lt c a = false

/-- A value may be taken before another one. -/
def Direction.Before (lt : α → α → Bool) : Direction → α → α → Prop
  | .front, a, b => lt b a = false
  | .back, a, b => lt a b = false

theorem Orders.before_trans (h : Orders lt p) {d : Direction} {a b c : α} (ha : p a) (hb : p b)
    (hc : p c) (hab : d.Before lt a b) (hbc : d.Before lt b c) : d.Before lt a c := by
  cases d with
  | front => exact h.trans ha hb hc hab hbc
  | back => exact h.trans hc hb ha hbc hab

/-- Values that stand in the order, in the direction in which they are taken. -/
structure Row (lt : α → α → Bool) (p : α → Prop) (d : Direction) (vs : List α) : Prop where
  all : ∀ a ∈ vs, p a
  pairwise : vs.Pairwise (d.Before lt)

namespace Row

variable {d : Direction} {vs ws : List α}

theorem nil : Row lt p d [] := ⟨by simp, .nil⟩

theorem append_iff : Row lt p d (vs ++ ws) ↔
    Row lt p d vs ∧ Row lt p d ws ∧ ∀ a ∈ vs, ∀ b ∈ ws, d.Before lt a b := by
  constructor
  · intro h
    obtain ⟨hvs, hws, hcross⟩ := List.pairwise_append.1 h.pairwise
    exact ⟨⟨fun a ha => h.all a (List.mem_append_left _ ha), hvs⟩,
      ⟨fun a ha => h.all a (List.mem_append_right _ ha), hws⟩, hcross⟩
  · rintro ⟨hvs, hws, hcross⟩
    refine ⟨fun a ha => ?_, List.pairwise_append.2 ⟨hvs.pairwise, hws.pairwise, hcross⟩⟩
    rcases List.mem_append.1 ha with ha | ha
    · exact hvs.all a ha
    · exact hws.all a ha

theorem cons_iff {v : α} : Row lt p d (v :: vs) ↔
    p v ∧ (∀ a ∈ vs, d.Before lt v a) ∧ Row lt p d vs := by
  constructor
  · intro h
    obtain ⟨hfirst, hrest⟩ := List.pairwise_cons.1 h.pairwise
    exact ⟨h.all v List.mem_cons_self, hfirst, fun a ha => h.all a (List.mem_cons_of_mem _ ha), hrest⟩
  · rintro ⟨hv, hfirst, hrest⟩
    exact ⟨List.forall_mem_cons.2 ⟨hv, hrest.all⟩, List.pairwise_cons.2 ⟨hfirst, hrest.pairwise⟩⟩

theorem sublist (h : Row lt p d ws) (hsub : vs.Sublist ws) : Row lt p d vs :=
  ⟨fun a ha => h.all a (hsub.mem ha), h.pairwise.sublist hsub⟩

theorem take (h : Row lt p d vs) (n : Nat) : Row lt p d (vs.take n) := h.sublist (List.take_sublist _ _)

theorem drop (h : Row lt p d vs) (n : Nat) : Row lt p d (vs.drop n) := h.sublist (List.drop_sublist _ _)

theorem take_drop (h : Row lt p d vs) (n : Nat) :
    ∀ a ∈ vs.take n, ∀ b ∈ vs.drop n, d.Before lt a b := by
  rw [← List.take_append_drop n vs] at h
  exact (append_iff.1 h).2.2

/-- What comes before the first value comes before all. -/
theorem before_all (horder : Orders lt p) {v b : α} (h : Row lt p d (v :: vs)) (hb : p b)
    (hbv : d.Before lt b v) : ∀ a ∈ v :: vs, d.Before lt b a := by
  obtain ⟨hv, hfirst, hrest⟩ := cons_iff.1 h
  intro a ha
  rcases List.mem_cons.1 ha with rfl | ha
  · exact hbv
  · exact horder.before_trans hb hv (hrest.all a ha) hbv (hfirst a ha)

/-- The values that come before another one stand in front. -/
theorem falls_before (horder : Orders lt p) (h : Row lt p d vs) {v : α} (hv : p v) {accepts : α → Bool}
    (haccepts : ∀ a, accepts a = true ↔ d.Before lt a v) : Falls (asked vs accepts) vs.length := by
  refine falls_asked (h.pairwise.imp_of_mem fun {a b} ha hb hab hyes => ?_)
  rw [haccepts] at hyes ⊢
  exact horder.before_trans (h.all a ha) (h.all b hb) hv hab hyes

theorem values_boundary (horder : Orders lt p) (h : Row lt p d vs) {v : α} (hv : p v)
    {accepts : α → Bool} (haccepts : ∀ a, accepts a = true ↔ d.Before lt a v) (late : Bool) :
    (∀ a ∈ vs.take (boundary late (asked vs accepts) vs.length), accepts a = true) ∧
      ∀ a ∈ vs.drop (boundary late (asked vs accepts) vs.length), accepts a = false :=
  (parts_boundary (h.falls_before horder hv haccepts) fun _ hi => asked_of_length_le hi).values

theorem reverse_iff : Row lt p .back vs.reverse ↔ Row lt p .front vs := by
  constructor
  · intro h
    exact ⟨fun a ha => h.all a (List.mem_reverse.2 ha), List.pairwise_reverse.1 h.pairwise⟩
  · intro h
    exact ⟨fun a ha => h.all a (List.mem_reverse.1 ha), List.pairwise_reverse.2 h.pairwise⟩

end Row

/-- Values brought into the order. -/
structure Merged (lt : α → α → Bool) (p : α → Prop) (d : Direction) (vs ws : List α) : Prop where
  perm : ws.Perm vs
  row : Row lt p d ws

end SiteTrial.Sorted
