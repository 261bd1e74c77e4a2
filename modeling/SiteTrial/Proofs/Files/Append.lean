import SiteTrial.Files

/-!
# Extending a file

A file that was opened once can be opened again: the directories above it are there, the walk along its
path ends at the same place, and what is written there can be read under the path.

* `Files.at?_set` : what stands at a place after one place was set;
* `Files.walk_set`, `Files.walk_set_self` : walks that end at another place, and at the place that was set;
* `Filing.Opens` : a path under which a file is opened without changing anything;
* `Files.IsNew` : a path at which there is no file yet, and can be one;
* `Files.Holds` : a file that is there, with its text; `Files.Holds.append` : it is extended.
-/

namespace SiteTrial

namespace Files

/-! ## Places -/

theorem lookup_putAt (p : Place) (n : Node) (nodes : List (Place × Node)) (q : Place) :
    (set.putAt p n nodes).lookup q = if q = p then some n else nodes.lookup q := by
  induction nodes with
  | nil =>
      by_cases hq : q = p
      · simp [set.putAt, hq]
      · simp [set.putAt, List.lookup_cons, hq, beq_eq_false_iff_ne.2 hq]
  | cons e rest ih =>
      obtain ⟨r, m⟩ := e
      unfold set.putAt
      by_cases hr : r = p
      · subst hr
        rw [if_pos rfl]
        by_cases hq : q = r
        · simp [hq]
        · simp [List.lookup_cons, hq, beq_eq_false_iff_ne.2 hq]
      · rw [if_neg hr]
        by_cases hq : q = r
        · subst hq
          simp [hr]
        · simp only [List.lookup_cons, beq_eq_false_iff_ne.2 hq]
          exact ih

theorem at?_set {fs : Files} {p : Place} (hp : p.isGiven = false) (n : Node) (q : Place) :
    (fs.set p n).at? q = if q = p then some n else fs.at? q := by
  unfold at?
  by_cases hq : q = p
  · rw [hq, hp, if_pos rfl]
    exact (lookup_putAt p n fs.nodes p).trans (if_pos rfl)
  · rw [if_neg hq]
    by_cases hgiven : q.isGiven = true
    · rw [if_pos hgiven, if_pos hgiven]
    · rw [if_neg hgiven, if_neg hgiven]
      exact (lookup_putAt p n fs.nodes q).trans (if_neg hq)

theorem isGiven_eq_false {fs : Files} {p : Place} (hp : fs.at? p ≠ some .directory) :
    p.isGiven = false := by
  rw [Bool.eq_false_iff]
  intro hgiven
  rw [at?, if_pos hgiven] at hp
  exact hp rfl

/-! ## Walks -/

/-- How a walk that leads to a place ends. -/
def standing (fs : Files) (p : Place) : Reached :=
  match fs.at? p with
  | some n => .found p n
  | none => .vacant p

theorem standing_injective {fs : Files} {p q : Place} (h : fs.standing p = fs.standing q) : p = q := by
  unfold standing at h
  cases hp : fs.at? p <;> cases hq : fs.at? q <;> rw [hp, hq] at h <;> cases h <;> rfl

/-- A walk leads to a place, or ends on the way. -/
theorem walk_cases (fs : Files) (here : Place) (names : List String) :
    (∃ q, fs.walk here names = fs.standing q) ∨
      fs.walk here names ∈ [Reached.lost, .blocked, .tooLong] := by
  fun_induction walk fs here names with
  | case1 here n hat => exact .inl ⟨here, by rw [standing, hat]⟩
  | case2 here hat => exact .inl ⟨here, by rw [standing, hat]⟩
  | case3 here name names hat => exact .inr (by simp)
  | case4 here name names text hat => exact .inr (by simp)
  | case5 here names hat ih => exact ih
  | case6 here names hat hdot ih => exact ih
  | case7 here name names hat hdot hup hlong => exact .inr (by simp)
  | case8 here name names hat hdot hup hlong ih => exact ih

/-- A walk leads to the same place after one place was set at which there was no directory. -/
theorem walk_set {fs : Files} {p q : Place} {n : Node} (hp : fs.at? p ≠ some .directory)
    (here : Place) (names : List String) (h : fs.walk here names = fs.standing q) :
    (fs.set p n).walk here names = (fs.set p n).standing q := by
  have hkept : ∀ d, fs.at? d = some .directory → (fs.set p n).at? d = some .directory := by
    intro d hd
    have hne : d ≠ p := by
      rintro rfl
      exact hp hd
    rw [at?_set (isGiven_eq_false hp), if_neg hne, hd]
  -- the walk goes through directories alone, and all of them are still there
  fun_induction walk fs here names with
  | case1 here m hat | case2 here hat =>
      have hhere : fs.standing here = fs.standing q := by rw [← h, standing, hat]
      rw [standing_injective hhere]
      rfl
  | case3 here name names hat | case4 here name names text hat =>
      unfold standing at h
      split at h <;> cases h
  | case5 here names hat ih =>
      rw [walk, hkept here hat]
      exact ih h
  | case6 here names hat hdot ih =>
      rw [walk, hkept here hat]
      exact ih h
  | case7 here name names hat hdot hup hlong =>
      unfold standing at h
      split at h <;> cases h
  | case8 here name names hat hdot hup hlong ih =>
      rw [walk, hkept here hat]
      dsimp only
      rw [if_neg hdot, if_neg hup, if_neg hlong]
      exact ih h

theorem reach_set {fs : Files} {p q : Place} {n : Node} (hp : fs.at? p ≠ some .directory)
    {path : String} (h : fs.reach path = fs.standing q) :
    (fs.set p n).reach path = (fs.set p n).standing q := by
  unfold reach at h ⊢
  split at h
  · unfold standing at h
    split at h <;> cases h
  · next hempty =>
      rw [if_neg hempty]
      split at h
      · unfold standing at h
        split at h <;> cases h
      · next hlong =>
          rw [if_neg hlong]
          exact walk_set hp _ _ h

theorem reach_cases (fs : Files) (path : String) :
    (∃ q, fs.reach path = fs.standing q) ∨ fs.reach path ∈ [Reached.lost, .blocked, .tooLong] := by
  unfold reach
  split
  · exact .inr (by simp)
  · split
    · exact .inr (by simp)
    · exact walk_cases fs _ _

theorem reach_eq_standing_of_vacant {fs : Files} {path : String} {q : Place}
    (h : fs.reach path = .vacant q) : fs.reach path = fs.standing q ∧ fs.at? q = none := by
  rcases reach_cases fs path with ⟨d, hd⟩ | hlost
  · have hvacant := hd
    rw [h, standing] at hvacant
    cases hat : fs.at? d <;> rw [hat] at hvacant <;> cases hvacant
    exact ⟨hd, hat⟩
  · rw [h] at hlost
    simp at hlost

theorem reach_eq_standing_of_found {fs : Files} {path : String} {q : Place} {n : Node}
    (h : fs.reach path = .found q n) : fs.reach path = fs.standing q ∧ fs.at? q = some n := by
  rcases reach_cases fs path with ⟨d, hd⟩ | hlost
  · have hfound := hd
    rw [h, standing] at hfound
    cases hat : fs.at? d <;> rw [hat] at hfound <;> cases hfound
    exact ⟨hd, hat⟩
  · rw [h] at hlost
    simp at hlost

/-! ## Steps that change files -/

theorem apply_bind {α β : Type} (fs : Files) (x : Filing α) (f : α → Filing β) :
    fs.apply (x >>= f) = match fs.apply x with
      | (.ok a, fs) => fs.apply (f a)
      | (.error e, fs) => (.error e, fs) := by
  change (match x.run.run fs with
    | (r, fs) => (ExceptT.bindCont f r).run fs) = match x.run.run fs with
      | (.ok a, fs) => fs.apply (f a)
      | (.error e, fs) => (.error e, fs)
  rcases x.run.run fs with ⟨r, fs⟩
  cases r <;> rfl

theorem exists_of_apply_bind {α β : Type} {fs fs' : Files} {x : Filing α} {f : α → Filing β} {b : β}
    (h : fs.apply (x >>= f) = (.ok b, fs')) :
    ∃ a fs₁, fs.apply x = (.ok a, fs₁) ∧ fs₁.apply (f a) = (.ok b, fs') := by
  rw [apply_bind] at h
  rcases hx : fs.apply x with ⟨r, fs₁⟩
  rw [hx] at h
  cases r with
  | ok a => exact ⟨a, fs₁, rfl, h⟩
  | error e => cases h

theorem apply_of {α : Type} (fs : Files) (r : Except Fault α) : fs.apply (Filing.of r) = (r, fs) := by
  cases r <;> rfl

theorem apply_get_bind {β : Type} (fs : Files) (f : Files → Filing β) :
    fs.apply (MonadState.get >>= f) = fs.apply (f fs) := rfl

theorem isDirectory_of_reach {fs : Files} {path : String} {d : Place}
    (hcheck : checkText path = .ok ()) (hreach : fs.reach path = .found d .directory) :
    fs.isDirectory path = true := by
  have hinspect : fs.inspect path = .ok (some .directory) := by
    unfold inspect
    rw [hcheck, hreach]
    rfl
  rw [isDirectory, node?, hinspect]
  rfl

theorem exists_of_isDirectory {fs : Files} {path : String} (h : fs.isDirectory path = true) :
    checkText path = .ok () ∧ ∃ d, fs.reach path = .found d .directory := by
  have hnode : fs.node? path = some .directory := eq_of_beq h
  unfold node? inspect at hnode
  cases hcheck : checkText path with
  | error f =>
      rw [hcheck] at hnode
      cases hnode
  | ok u =>
      rw [hcheck] at hnode
      refine ⟨rfl, ?_⟩
      cases hreach : fs.reach path with
      | found d n =>
          cases n with
          | directory => exact ⟨d, rfl⟩
          | file text =>
              rw [hreach] at hnode
              change (if Path.endsOpen path then none else some (Node.file text)) = _ at hnode
              split at hnode <;> cases hnode
      | _ =>
          rw [hreach] at hnode
          cases hnode

theorem isDirectory_of_makeDirectory {fs fs' : Files} {path : String}
    (h : fs.apply (Filing.makeDirectory path) = (.ok (), fs')) : fs'.isDirectory path = true := by
  obtain ⟨_, fs₁, hcheck, h⟩ := exists_of_apply_bind h
  rw [apply_of] at hcheck
  obtain ⟨hok, rfl⟩ := Prod.mk.inj hcheck
  rw [apply_get_bind] at h
  split at h
  · next d hreach =>
      cases h
      exact isDirectory_of_reach hok hreach
  · cases h
  · next d hreach =>
      cases h
      obtain ⟨hstanding, hat⟩ := reach_eq_standing_of_vacant hreach
      have hfree : fs.at? d ≠ some .directory := by rw [hat]; simp
      refine isDirectory_of_reach (d := d) hok ?_
      rw [reach_set hfree hstanding, standing, at?_set (isGiven_eq_false hfree), if_pos rfl]
  · cases h

theorem isDirectory_of_makeDirectories {fs fs' : Files} {path : String}
    (h : fs.apply (Filing.makeDirectories path) = (.ok (), fs')) : fs'.isDirectory path = true := by
  obtain ⟨_, fs₁, -, h⟩ := exists_of_apply_bind h
  exact isDirectory_of_makeDirectory h

/-! ## Opening a file -/

/-- A file is opened at a place under a path, and nothing has to be made for it. -/
structure Opens (fs : Files) (path : String) (place : Place) : Prop where
  above : Path.parent path = "" ∨ fs.isDirectory (Path.parent path) = true
  text : checkText path = .ok ()
  reaches : fs.reach path = fs.standing place
  free : fs.at? place ≠ some .directory
  ends : Path.endsOpen path = false

theorem apply_openFile (fs : Files) (path : String) :
    fs.apply (Filing.openFile path) =
      if !(Path.parent path).isEmpty && !fs.isDirectory (Path.parent path) then
        fs.apply (Filing.makeDirectories (Path.parent path) >>= fun _ => Filing.openBelow path)
      else fs.apply (Filing.openBelow path) := by
  unfold Filing.openFile
  rw [apply_get_bind]
  split <;> rfl

theorem openBelow_cases {fs fs' : Files} {path : String} {place : Place}
    (h : fs.apply (Filing.openBelow path) = (.ok place, fs')) :
    fs' = fs ∧ checkText path = .ok () ∧ fs.reach path = fs.standing place ∧
      fs.at? place ≠ some .directory ∧ Path.endsOpen path = false := by
  obtain ⟨_, fs₁, hcheck, h⟩ := exists_of_apply_bind h
  rw [apply_of] at hcheck
  obtain ⟨hok, rfl⟩ := Prod.mk.inj hcheck
  rw [apply_get_bind] at h
  split at h
  · cases h
  · next d text hreach =>
      obtain ⟨hstanding, hat⟩ := reach_eq_standing_of_found hreach
      split at h
      · cases h
      · next hends =>
          cases h
          refine ⟨rfl, hok, hstanding, ?_, Bool.eq_false_iff.2 hends⟩
          rw [hat]
          simp
  · next d hreach =>
      obtain ⟨hstanding, hat⟩ := reach_eq_standing_of_vacant hreach
      split at h
      · cases h
      · next hends =>
          cases h
          refine ⟨rfl, hok, hstanding, ?_, Bool.eq_false_iff.2 hends⟩
          rw [hat]
          simp
  · cases h

/-- A file that was opened can be opened again. -/
theorem opens_of_openFile {fs fs' : Files} {path : String} {place : Place}
    (h : fs.apply (Filing.openFile path) = (.ok place, fs')) : Opens fs' path place := by
  rw [apply_openFile] at h
  split at h
  · obtain ⟨_, fs₁, hmade, h⟩ := exists_of_apply_bind h
    obtain ⟨rfl, htext, hreaches, hfree, hends⟩ := openBelow_cases h
    exact ⟨.inr (isDirectory_of_makeDirectories hmade), htext, hreaches, hfree, hends⟩
  · next habove =>
      obtain ⟨rfl, htext, hreaches, hfree, hends⟩ := openBelow_cases h
      refine ⟨?_, htext, hreaches, hfree, hends⟩
      simpa [String.isEmpty_iff, Classical.or_iff_not_imp_left] using habove

/-- Opening a file that was opened before changes nothing. -/
theorem Opens.apply_openFile {fs : Files} {path : String} {place : Place} (h : Opens fs path place) :
    fs.apply (Filing.openFile path) = (.ok place, fs) := by
  have habove : (!(Path.parent path).isEmpty && !fs.isDirectory (Path.parent path)) = false := by
    rcases h.above with habove | habove
    · rw [habove]
      rfl
    · rw [habove, Bool.not_true, Bool.and_false]
  rw [Files.apply_openFile, habove, if_neg (by simp), Filing.openBelow, apply_bind, apply_of, h.text]
  dsimp only
  rw [apply_get_bind, h.reaches]
  have hfree := h.free
  unfold standing
  rcases hat : fs.at? place with _ | n
  · simp only [h.ends]
    rfl
  · cases n with
    | file text =>
        simp only [h.ends]
        rfl
    | directory => exact absurd hat hfree

theorem Opens.set {fs : Files} {path : String} {place : Place} (h : Opens fs path place)
    (text : String) : Opens (fs.set place (.file text)) path place := by
  refine ⟨h.above.imp_right fun habove => ?_, h.text, reach_set h.free h.reaches, ?_, h.ends⟩
  · obtain ⟨hcheck, d, hreach⟩ := exists_of_isDirectory habove
    obtain ⟨hstanding, hat⟩ := reach_eq_standing_of_found hreach
    have hne : d ≠ place := by
      rintro rfl
      exact h.free hat
    refine isDirectory_of_reach (d := d) hcheck ?_
    rw [reach_set h.free hstanding, standing, at?_set (isGiven_eq_false h.free), if_neg hne, hat]
  · rw [at?_set (isGiven_eq_false h.free), if_pos rfl]
    simp

/-! ## Extending a file -/

structure IsNew (fs : Files) (path : String) : Prop where
  unread : fs.read? path = none
  opens : ∃ place fs', fs.apply (Filing.openFile path) = (.ok place, fs') ∧ fs'.at? place = none

/-- A file that is there, can be opened and has a text. -/
def Holds (fs : Files) (path text : String) : Prop :=
  ∃ place, Opens fs path place ∧ fs.at? place = some (.file text)

theorem Holds.read? {fs : Files} {path text : String} (h : fs.Holds path text) :
    fs.read? path = some text := by
  obtain ⟨place, hopens, hat⟩ := h
  have hinspect : fs.inspect path = .ok (some (.file text)) := by
    unfold inspect
    rw [hopens.text, hopens.reaches, standing, hat]
    show (.ok (if Path.endsOpen path then none else some (.file text)) :
      Except Fault (Option Node)) = _
    rw [hopens.ends]
    rfl
  rw [Files.read?, node?, hinspect]
  rfl

/-- A file that can be read can be extended, where the directory above it is there. -/
theorem holds_of_read? {fs : Files} {path text : String} (h : fs.read? path = some text)
    (habove : Path.parent path = "" ∨ fs.isDirectory (Path.parent path) = true) :
    fs.Holds path text := by
  have hnode : fs.node? path = some (.file text) := by
    unfold Files.read? at h
    split at h
    · next other hnode => rw [hnode, Option.some.inj h]
    · cases h
  unfold node? inspect at hnode
  cases hcheck : checkText path with
  | error f =>
      rw [hcheck] at hnode
      cases hnode
  | ok u =>
      rw [hcheck] at hnode
      cases hreach : fs.reach path with
      | found place n =>
          rw [hreach] at hnode
          cases n with
          | directory => cases hnode
          | file other =>
              change (if Path.endsOpen path then none else some (Node.file other)) = _ at hnode
              split at hnode
              · cases hnode
              · next hends =>
                  cases hnode
                  obtain ⟨hstanding, hat⟩ := reach_eq_standing_of_found hreach
                  refine ⟨place, ⟨habove, hcheck, hstanding, ?_, Bool.eq_false_iff.2 hends⟩, hat⟩
                  rw [hat]
                  simp
      | _ =>
          rw [hreach] at hnode
          cases hnode

theorem Opens.holds_set {fs : Files} {path : String} {place : Place} (h : Opens fs path place)
    (text : String) : (fs.set place (.file text)).Holds path text := by
  refine ⟨place, h.set text, ?_⟩
  rw [at?_set (isGiven_eq_false h.free), if_pos rfl]

/-- The first text of a new file. -/
theorem IsNew.append {fs : Files} {path : String} (h : fs.IsNew path) (text : String) :
    ∃ fs', fs.apply (Filing.append path text) = (.ok (), fs') ∧ fs'.Holds path text := by
  obtain ⟨place, fs', hopen, hat⟩ := h.opens
  refine ⟨fs'.set place (.file text), ?_, (opens_of_openFile hopen).holds_set text⟩
  rw [Filing.append, apply_bind, hopen]
  show ((.ok (), fs'.set place (.file _)) : Except Fault Unit × Files) = _
  rw [hat, String.empty_append]

/-- More text behind that of a file. -/
theorem Holds.append {fs : Files} {path before : String} (h : fs.Holds path before) (text : String) :
    ∃ fs', fs.apply (Filing.append path text) = (.ok (), fs') ∧ fs'.Holds path (before ++ text) := by
  obtain ⟨place, hopens, hat⟩ := h
  refine ⟨fs.set place (.file (before ++ text)), ?_, hopens.holds_set _⟩
  rw [Filing.append, apply_bind, hopens.apply_openFile]
  show ((.ok (), fs.set place (.file _)) : Except Fault Unit × Files) = _
  rw [hat]

end Files

end SiteTrial
