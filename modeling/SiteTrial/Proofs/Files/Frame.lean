import SiteTrial.Proofs.Files.Append

/-!
# What a step leaves alone

Making directories changes no text, and writing or extending a file changes no text but its own. Its place is
the one that its path means, whatever stands there: the names of a path are taken one after another, and a
directory on the way can only decide whether the walk comes to its end.

* `Path.place` : the place that a path means;
* `Files.textAt` : the text of the file at a place;
* `Files.Frame` : no text outside some places has changed;
* `Filing.Within` : a step that changes no text outside some places, with a rule for each way of putting
  steps together;
* `Filing.within_write`, `Filing.within_append` : the steps that change a file;
* `Files.apply_write_cases` : what becomes of a file that is to be written.
-/

namespace SiteTrial

namespace Path

/-- The place that a name leads to from another one. -/
def next (here : Place) (name : String) : Place :=
  if name = "." then here else if name = ".." then here.above else here ++ [name]

/-- The place that a path means. -/
def place (path : String) : Place :=
  (names path).foldl next (if isAbsolute path then Place.root else [])

end Path

namespace Files

/-! ## Where a walk leads -/

/-- A walk that ends on the way has not led to a place. -/
theorem standing_ne {fs : Files} {q : Place} {r : Reached} (hr : r ∈ [Reached.lost, .blocked, .tooLong]) :
    r ≠ fs.standing q := by
  rintro rfl
  unfold standing at hr
  split at hr <;> simp at hr

theorem eq_of_walk {fs : Files} {here q : Place} {names : List String}
    (h : fs.walk here names = fs.standing q) : q = names.foldl Path.next here := by
  fun_induction walk fs here names with
  | case1 here n hat | case2 here hat =>
      have hhere : fs.standing here = fs.standing q := by rw [← h, standing, hat]
      exact (standing_injective hhere).symm
  | case3 | case4 | case7 => exact absurd h (standing_ne (by simp))
  | case5 here names hat ih => exact ih h
  | case6 here names hat hdot ih => exact ih h
  | case8 here name names hat hdot hup hlong ih =>
      rw [List.foldl_cons, Path.next, if_neg hdot, if_neg hup]
      exact ih h

theorem eq_of_reach {fs : Files} {path : String} {q : Place} (h : fs.reach path = fs.standing q) :
    q = Path.place path := by
  unfold reach at h
  split at h
  · exact absurd h (standing_ne (by simp))
  · split at h
    · exact absurd h (standing_ne (by simp))
    · exact eq_of_walk h

theorem Opens.place_eq {fs : Files} {path : String} {place : Place} (h : Opens fs path place) :
    place = Path.place path := eq_of_reach h.reaches

/-! ## Texts that stay -/

/-- The text of the file at a place, if there is one. -/
def textAt (fs : Files) (p : Place) : Option String :=
  match fs.at? p with
  | some (.file text) => some text
  | _ => none

/-- Every text outside some places is as it was. -/
def Frame (fs fs' : Files) (W : Place → Prop) : Prop := ∀ q, ¬ W q → fs'.textAt q = fs.textAt q

variable {fs fs₁ fs₂ : Files} {W : Place → Prop}

theorem Frame.refl (fs : Files) (W : Place → Prop) : Frame fs fs W := fun _ _ => rfl

theorem Frame.trans (h : Frame fs fs₁ W) (h' : Frame fs₁ fs₂ W) : Frame fs fs₂ W :=
  fun q hq => (h' q hq).trans (h q hq)

theorem Frame.mono {W' : Place → Prop} (h : Frame fs fs₁ W) (hW : ∀ q, W q → W' q) :
    Frame fs fs₁ W' :=
  fun q hq => h q fun hw => hq (hW q hw)

theorem Opens.frame_set {path : String} {place : Place} (h : Opens fs path place) (text : String) :
    Frame fs (fs.set place (.file text)) (· = Path.place path) := by
  intro q hq
  rw [← h.place_eq] at hq
  rw [textAt, at?_set (isGiven_eq_false h.free), if_neg hq]
  rfl

/-- A directory where there was nothing is no text. -/
theorem frame_set_directory {p : Place} (hp : fs.at? p = none) : Frame fs (fs.set p .directory) W := by
  intro q _
  have hfree : fs.at? p ≠ some .directory := by
    rw [hp]
    nofun
  unfold textAt
  rw [at?_set (isGiven_eq_false hfree)]
  by_cases hq : q = p
  · rw [if_pos hq, hq, hp]
  · rw [if_neg hq]

end Files

open Files

namespace Filing

/-- A step that changes no text outside some places, whether it fails or not. -/
def Within {α : Type} (W : Place → Prop) (x : Filing α) : Prop :=
  ∀ fs : Files, Frame fs (fs.apply x).2 W

variable {α β : Type} {W : Place → Prop} {path : String}

theorem within_of (r : Except Fault α) : Within W (of r) := by
  intro fs
  rw [apply_of]
  exact .refl fs W

theorem within_get {f : Files → Filing α} (h : ∀ fs : Files, Frame fs (fs.apply (f fs)).2 W) :
    Within W (MonadState.get >>= f) := h

theorem Within.bind {x : Filing α} {f : α → Filing β} (hx : Within W x) (hf : ∀ a, Within W (f a)) :
    Within W (x >>= f) := by
  intro fs
  have hfirst := hx fs
  rw [apply_bind]
  rcases hr : fs.apply x with ⟨r, fs₁⟩
  rw [hr] at hfirst
  cases r with
  | error f => exact hfirst
  | ok a => exact hfirst.trans (hf a fs₁)

theorem within_forM {f : α → Filing Unit} (h : ∀ a, Within W (f a)) (l : List α) :
    Within W (l.forM f) := by
  induction l with
  | nil => exact fun fs => .refl fs W
  | cons a l ih => exact (h a).bind fun _ => ih

/-! ## Directories -/

theorem within_makeDirectory (path : String) : Within W (makeDirectory path) := by
  refine (within_of _).bind fun _ => within_get fun fs => ?_
  split
  · exact .refl fs W
  · exact .refl fs W
  · next p hreach => exact frame_set_directory (reach_eq_standing_of_vacant hreach).2
  · exact .refl fs W

theorem within_makeDirectories (path : String) : Within W (makeDirectories path) := by
  refine (within_forM (fun stage => within_get fun fs => ?_) _).bind fun _ => within_makeDirectory path
  split
  · exact within_makeDirectory stage fs
  · exact .refl fs W

/-! ## Files -/

theorem within_openBelow (path : String) : Within W (openBelow path) := by
  refine (within_of _).bind fun _ => within_get fun fs => ?_
  split
  · exact .refl fs W
  · split <;> exact .refl fs W
  · split <;> exact .refl fs W
  · exact .refl fs W

theorem within_openFile (path : String) : Within W (openFile path) := by
  intro fs
  rw [apply_openFile]
  split
  · exact ((within_makeDirectories _).bind fun _ => within_openBelow path) fs
  · exact within_openBelow path fs

/-- A step that opens a file and then only changes that. -/
theorem within_openFile_bind {f : Place → Filing α}
    (h : ∀ fs place, Opens fs path place → Frame fs (fs.apply (f place)).2 (· = Path.place path)) :
    Within (· = Path.place path) (openFile path >>= f) := by
  intro fs
  have hopen := within_openFile (W := (· = Path.place path)) path fs
  rw [apply_bind]
  rcases hr : fs.apply (openFile path) with ⟨r, fs₁⟩
  rw [hr] at hopen
  cases r with
  | error f => exact hopen
  | ok place => exact hopen.trans (h fs₁ place (opens_of_openFile hr))

theorem within_append (path text : String) : Within (· = Path.place path) (append path text) :=
  within_openFile_bind fun _ _ hopens => hopens.frame_set _

theorem within_write (path : String) (text : Except Fault String) :
    Within (· = Path.place path) (write path text) := by
  refine within_openFile_bind fun fs place hopens => ?_
  cases text with
  | error f => exact hopens.frame_set ""
  | ok text => exact (hopens.frame_set "").trans ((hopens.set "").frame_set text)

end Filing

namespace Files

/-- A file cannot be opened, or it is opened and there is no text for it, or it holds the text afterwards. -/
theorem apply_write_cases (fs : Files) (path : String) (text : Except Fault String) :
    (∃ f, (fs.apply (Filing.write path text)).1 = .error f ∧
      ∀ W, Frame fs (fs.apply (Filing.write path text)).2 W) ∨
    (∃ f, text = .error f ∧ (fs.apply (Filing.write path text)).1 = .error f) ∨
    ∃ t, text = .ok t ∧ (fs.apply (Filing.write path text)).1 = .ok () ∧
      (fs.apply (Filing.write path text)).2.Holds path t := by
  have hopen := fun W => Filing.within_openFile (W := W) path fs
  rw [Filing.write, apply_bind]
  rcases hr : fs.apply (Filing.openFile path) with ⟨r, fs₁⟩
  rw [hr] at hopen
  cases r with
  | error f => exact .inl ⟨f, rfl, hopen⟩
  | ok place =>
      cases text with
      | error f => exact .inr (.inl ⟨f, rfl, rfl⟩)
      | ok t => exact .inr (.inr ⟨t, rfl, rfl, ((opens_of_openFile hr).set "").holds_set t⟩)

end Files

end SiteTrial
