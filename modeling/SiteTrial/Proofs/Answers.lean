import Mathlib.Data.List.Basic

/-!
# Answers that may be refused

* `exists_of_bind`, `exists_of_ite_bind`, `exists_of_map` : two steps one after another, and what is made of an answer;
  `exists_map_iff`, `exists_mapM_iff` : what is made of answers is made exactly if there are answers;
  `run_bind`, `exists_of_run_bind` : two steps that share a state;
* `exists_bind_iff` : when such steps are answered; `error_bind_iff`, `error_map_iff`, `error_foldlM_iff` :
  when they are refused; `refusal?` : why;
* `mapM_of_all_ok`, `exists_mapM_of_all`, `exists_of_mem_mapM`, `map_of_mapM_ok`, `mapM_error_of_exists` :
  the answers for the members of a list;
* `AgreeUpToOrder`, `agreeUpToOrder_mapM` : in which order these are asked for does not matter.
-/

namespace SiteTrial

theorem ok_bind {ε α β : Type} (a : α) (f : α → Except ε β) : (Except.ok a >>= f) = f a := rfl

/-- Two steps one after another succeed only if both do. -/
theorem exists_of_bind {ε α β : Type} {x : Except ε α} {f : α → Except ε β} {b : β}
    (h : x >>= f = .ok b) : ∃ a, x = .ok a ∧ f a = .ok b := by
  cases x with
  | error e => cases h
  | ok a => exact ⟨a, rfl, h⟩

/-- So does the step that follows either of two. -/
theorem exists_of_ite_bind {ε α β : Type} {p : Prop} [Decidable p] {x y : Except ε α} {k : α → Except ε β} {b : β}
    (h : (if p then x >>= k else y >>= k) = .ok b) : ∃ a, (if p then x else y) = .ok a ∧ k a = .ok b := by
  split at h
  · next hp =>
      rw [if_pos hp]
      exact exists_of_bind h
  · next hp =>
      rw [if_neg hp]
      exact exists_of_bind h

theorem exists_of_map {ε α β : Type} {x : Except ε α} {f : α → β} {b : β} (h : x.map f = .ok b) :
    ∃ a, x = .ok a ∧ f a = b := by
  cases x with
  | error e => cases h
  | ok a => exact ⟨a, rfl, Except.ok.inj h⟩

theorem exists_map_iff {ε α β : Type} {x : Except ε α} {f : α → β} :
    (∃ b, x.map f = .ok b) ↔ ∃ a, x = .ok a := by
  cases x with
  | error e => exact iff_of_false nofun nofun
  | ok a => exact iff_of_true ⟨_, rfl⟩ ⟨_, rfl⟩

theorem exists_mapError_iff {ε ε' α : Type} {x : Except ε α} {f : ε → ε'} :
    (∃ a, x.mapError f = .ok a) ↔ ∃ a, x = .ok a := by
  cases x with
  | error e => exact iff_of_false nofun nofun
  | ok a => exact iff_of_true ⟨_, rfl⟩ ⟨_, rfl⟩

theorem eq_of_mapError {ε ε' α : Type} {x : Except ε α} {f : ε → ε'} {a : α}
    (h : x.mapError f = .ok a) : x = .ok a := by
  cases x with
  | error e => cases h
  | ok b => exact congrArg Except.ok (Except.ok.inj h)

theorem exists_of_isSome {ε α : Type} {x : Except ε α} (h : x.toOption.isSome = true) :
    ∃ a, x = .ok a := by
  cases x with
  | error e => cases h
  | ok a => exact ⟨a, rfl⟩

/-- Why an answer is refused, if it is. -/
def refusal? {ε α : Type} : Except ε α → Option ε
  | .error e => some e
  | .ok _ => none

theorem eq_error_of_refusal? {ε α : Type} {x : Except ε α} {e : ε} (h : refusal? x = some e) :
    x = .error e := by
  cases x with
  | error f => exact congrArg Except.error (Option.some.inj h)
  | ok a => cases h

theorem error_map_iff {ε α β : Type} {x : Except ε α} {f : α → β} :
    (∃ e, x.map f = .error e) ↔ ∃ e, x = .error e := by
  cases x with
  | error e => exact ⟨fun _ => ⟨e, rfl⟩, fun _ => ⟨e, rfl⟩⟩
  | ok a => exact ⟨nofun, nofun⟩

/-- Two steps one after another that share a state: the second one starts where the first one has left it. -/
theorem run_bind {ε σ α β : Type} (x : ExceptT ε (StateM σ) α) (k : α → ExceptT ε (StateM σ) β) (s : σ) :
    (x >>= k).run.run s = match x.run.run s with
      | (.ok a, t) => (k a).run.run t
      | (.error e, t) => (.error e, t) := by
  change (ExceptT.bindCont k (x.run.run s).1).run (x.run.run s).2 = _
  rcases x.run.run s with ⟨r, t⟩
  cases r <;> rfl

/-- Together they come to an answer only if both do. -/
theorem exists_of_run_bind {ε σ α β : Type} {x : ExceptT ε (StateM σ) α} {k : α → ExceptT ε (StateM σ) β} {s t : σ}
    {b : β} (h : (x >>= k).run.run s = (.ok b, t)) :
    ∃ a u, x.run.run s = (.ok a, u) ∧ (k a).run.run u = (.ok b, t) := by
  rw [run_bind] at h
  rcases hx : x.run.run s with ⟨r, u⟩
  rw [hx] at h
  cases r with
  | ok a => exact ⟨a, u, rfl, h⟩
  | error e => cases h

/-- Two steps are refused if one of them is, the second whatever the first one answers. -/
theorem error_bind_iff {ε α β : Type} {x : Except ε α} {k : α → Except ε β} {p : Prop}
    (h : ∀ a, (∃ e, k a = .error e) ↔ p) : (∃ e, x >>= k = .error e) ↔ (∃ e, x = .error e) ∨ p := by
  cases hx : x with
  | error e => exact ⟨fun _ => .inl ⟨e, rfl⟩, fun _ => ⟨e, rfl⟩⟩
  | ok a => exact (h a).trans (or_iff_right nofun).symm

/-- Two steps are answered if both are, the second whatever the first one answers. -/
theorem exists_bind_iff {ε α β : Type} {x : Except ε α} {k : α → Except ε β} {p : Prop}
    (h : ∀ a, (∃ b, k a = .ok b) ↔ p) : (∃ b, x >>= k = .ok b) ↔ (∃ a, x = .ok a) ∧ p := by
  cases hx : x with
  | error e => exact iff_of_false nofun fun hboth => nomatch hboth.1
  | ok a => exact (h a).trans (and_iff_right ⟨a, rfl⟩).symm

theorem exists_iff_not_error {ε α : Type} {x : Except ε α} : (∃ a, x = .ok a) ↔ ¬ ∃ e, x = .error e := by
  cases x with
  | error e => exact iff_of_false nofun fun h => h ⟨e, rfl⟩
  | ok a => exact iff_of_true ⟨a, rfl⟩ nofun

/-- Steps through a list are refused if one of them is, whatever those before have come to. -/
theorem error_foldlM_iff {ε α β : Type} {f : β → α → Except ε β} {p : α → Prop} {l : List α}
    (h : ∀ b a, (∃ e, f b a = .error e) ↔ p a) {b : β} :
    (∃ e, l.foldlM f b = .error e) ↔ ∃ a ∈ l, p a := by
  induction l generalizing b with
  | nil => exact ⟨nofun, nofun⟩
  | cons a l ih =>
      rw [List.foldlM_cons, error_bind_iff fun _ => ih, h, List.exists_mem_cons_iff]

/-- Two steps of which both agree in what one looks at agree in it together. -/
theorem map_bind_congr {ε α α' β β' γ δ : Type} {x : Except ε α} {y : Except ε α'} {f : α → γ}
    {f' : α' → γ} {k : α → Except ε β} {k' : α' → Except ε β'} {g : β → δ} {g' : β' → δ}
    (h : x.map f = y.map f') (hk : ∀ a a', f a = f' a' → (k a).map g = (k' a').map g') :
    (x >>= k).map g = (y >>= k').map g' := by
  cases x with
  | error e =>
      cases y with
      | error e' =>
          cases h
          rfl
      | ok a' => cases h
  | ok a =>
      cases y with
      | error e' => cases h
      | ok a' => exact hk a a' (Except.ok.inj h)

/-- Two answers that are both refused, or both lists with the same members. -/
def AgreeUpToOrder {ε α : Type} (x y : Except ε (List α)) : Prop :=
  (∃ e f, x = .error e ∧ y = .error f) ∨ ∃ as bs, x = .ok as ∧ y = .ok bs ∧ as.Perm bs

section MapM

variable {ε α β : Type} {f : α → Except ε β} {l : List α}

theorem mapM_of_all_ok (h : ∀ a ∈ l, ∃ b, f a = .ok b) :
    l.mapM f = .ok (l.filterMap fun a => (f a).toOption) := by
  induction l with
  | nil => rfl
  | cons a l ih =>
      obtain ⟨b, hb⟩ := h a (List.mem_cons_self ..)
      rw [List.mapM_cons, hb, ih fun a ha => h a (List.mem_cons_of_mem _ ha), List.filterMap_cons, hb]
      rfl

/-- Answers that all are alike. -/
theorem exists_mapM_of_all {p : β → Prop} (h : ∀ a ∈ l, ∃ b, f a = .ok b ∧ p b) :
    ∃ bs, l.mapM f = .ok bs ∧ bs.length = l.length ∧ ∀ b ∈ bs, p b := by
  induction l with
  | nil => exact ⟨[], rfl, rfl, by simp⟩
  | cons a l ih =>
      obtain ⟨b, hb, hpb⟩ := h a (List.mem_cons_self ..)
      obtain ⟨bs, hbs, hlength, hall⟩ := ih fun a ha => h a (List.mem_cons_of_mem _ ha)
      refine ⟨b :: bs, ?_, congrArg Nat.succ hlength, List.forall_mem_cons.2 ⟨hpb, hall⟩⟩
      rw [List.mapM_cons, hb, hbs]
      rfl

/-- Each member of a list of answers was given for one that was asked for. -/
theorem exists_of_mem_mapM {bs : List β} (h : l.mapM f = .ok bs) {b : β} (hb : b ∈ bs) :
    ∃ a ∈ l, f a = .ok b := by
  induction l generalizing bs with
  | nil =>
      cases h
      cases hb
  | cons a l ih =>
      rw [List.mapM_cons] at h
      obtain ⟨c, ha, h⟩ := exists_of_bind h
      obtain ⟨cs, hl, h⟩ := exists_of_bind h
      cases h
      rcases List.mem_cons.1 hb with rfl | hb
      · exact ⟨a, List.mem_cons_self .., ha⟩
      · obtain ⟨d, hd, hf⟩ := ih hl hb
        exact ⟨d, List.mem_cons_of_mem _ hd, hf⟩

/-- Answers that name what they are for name all that was asked for. -/
theorem map_of_mapM_ok {bs : List β} {g : β → α} (hg : ∀ a b, f a = .ok b → g b = a)
    (h : l.mapM f = .ok bs) : bs.map g = l := by
  induction l generalizing bs with
  | nil =>
      cases h
      rfl
  | cons a l ih =>
      rw [List.mapM_cons] at h
      obtain ⟨b, ha, h⟩ := exists_of_bind h
      obtain ⟨bs, hl, h⟩ := exists_of_bind h
      cases h
      rw [List.map_cons, hg a b ha, ih hl]

theorem mapM_error_of_exists (h : ∃ a ∈ l, ∃ e, f a = .error e) : ∃ e, l.mapM f = .error e := by
  induction l with
  | nil => simp at h
  | cons a l ih =>
      rw [List.mapM_cons]
      cases ha : f a with
      | error e => exact ⟨e, rfl⟩
      | ok b =>
          obtain ⟨c, hc, e, he⟩ := h
          rcases List.mem_cons.1 hc with rfl | hc
          · rw [ha] at he
            cases he
          · obtain ⟨e, hl⟩ := ih ⟨c, hc, e, he⟩
            exact ⟨e, by rw [hl]; rfl⟩

theorem exists_of_mapM_ok {bs : List β} (h : l.mapM f = .ok bs) {a : α} (ha : a ∈ l) :
    ∃ b, f a = .ok b := by
  cases hfa : f a with
  | ok b => exact ⟨b, rfl⟩
  | error e =>
      obtain ⟨e', he'⟩ := mapM_error_of_exists ⟨a, ha, e, hfa⟩
      rw [he'] at h
      cases h

theorem exists_mapM_iff : (∃ bs, l.mapM f = .ok bs) ↔ ∀ a ∈ l, ∃ b, f a = .ok b :=
  ⟨fun ⟨_, h⟩ _ ha => exists_of_mapM_ok h ha, fun h => ⟨_, mapM_of_all_ok h⟩⟩

theorem mem_of_mapM_ok {bs : List β} (h : l.mapM f = .ok bs) {a : α} {b : β} (ha : a ∈ l)
    (hb : f a = .ok b) : b ∈ bs := by
  rw [mapM_of_all_ok fun a ha => exists_of_mapM_ok h ha] at h
  cases h
  exact List.mem_filterMap.2 ⟨a, ha, by rw [hb]; rfl⟩

/-- What is made of each answer can be made of the answers together. -/
theorem mapM_map_ok {γ : Type} (g : β → γ) :
    (l.mapM fun a => (f a).map g) = (l.mapM f).map (List.map g) := by
  induction l with
  | nil => rfl
  | cons a l ih =>
      rw [List.mapM_cons, List.mapM_cons, ih]
      cases f a with
      | error e => rfl
      | ok b => cases l.mapM f <;> rfl

/-- In which order answers are asked for does not matter, up to the order of their list. -/
theorem agreeUpToOrder_mapM {g : α → Except ε β} {l' : List α} (h : l.Perm l')
    (hfg : ∀ a ∈ l, f a = g a) : AgreeUpToOrder (l.mapM f) (l'.mapM g) := by
  by_cases hbad : ∃ a ∈ l, ∃ e, f a = .error e
  · obtain ⟨a, ha, e, hfa⟩ := hbad
    obtain ⟨e₁, he₁⟩ := mapM_error_of_exists ⟨a, ha, e, hfa⟩
    obtain ⟨e₂, he₂⟩ := mapM_error_of_exists ⟨a, h.mem_iff.1 ha, e, hfg a ha ▸ hfa⟩
    exact .inl ⟨e₁, e₂, he₁, he₂⟩
  · have hgood : ∀ a ∈ l, ∃ b, f a = .ok b := by
      intro a ha
      cases hfa : f a with
      | ok b => exact ⟨b, rfl⟩
      | error e => exact absurd ⟨a, ha, e, hfa⟩ hbad
    have hgood' : ∀ a ∈ l', ∃ b, g a = .ok b := by
      intro a ha
      rw [← hfg a (h.mem_iff.2 ha)]
      exact hgood a (h.mem_iff.2 ha)
    refine .inr ⟨_, _, mapM_of_all_ok hgood, mapM_of_all_ok hgood', ?_⟩
    have hsame : (l.filterMap fun a => (f a).toOption) = l.filterMap fun a => (g a).toOption :=
      List.filterMap_congr fun a ha => by rw [hfg a ha]
    rw [hsame]
    exact h.filterMap _

end MapM

end SiteTrial
