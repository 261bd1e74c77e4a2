import SiteTrial.Value.Parts

/-!
# Values that can be written

A value is written unless an integer in it is too long. What a value that can be written holds can be
written too, also where it stands for a name that the value has inside itself.

* `Value.areWritable_iff`, `Value.fieldsWritable_iff` : the parts one by one;
* `Value.isWritable_opened` : a value without its name;
* `Value.fieldsWritable_of_fields?`, `Value.isWritable_getD` : what a mapping holds.
-/

namespace SiteTrial

theorem Scalar.isWritable_int_iff {n : Int} :
    (Scalar.int n).isWritable = true ↔ n.natAbs < Nat.pow 10 Decimal.maxIntegerDigits := by
  simp only [isWritable, decide_eq_true_eq]

namespace Value

theorem areWritable_iff {vs : List Value} :
    areWritable vs = true ↔ ∀ v ∈ vs, v.isWritable = true := by
  induction vs with
  | nil => simp [areWritable]
  | cons v vs ih => simp [areWritable, ih]

theorem fieldsWritable_iff {fs : Fields} :
    fieldsWritable fs = true ↔ ∀ e ∈ fs, e.1.isWritable = true ∧ e.2.isWritable = true := by
  induction fs with
  | nil => simp [fieldsWritable]
  | cons e fs ih => simp [fieldsWritable, ih]

theorem fieldsWritable_put {fs : Fields} {k : Scalar} {v : Value} (hfs : fieldsWritable fs = true)
    (hk : k.isWritable = true) (hv : v.isWritable = true) : fieldsWritable (fs.put k v) = true := by
  induction fs with
  | nil => simp [Fields.put, fieldsWritable, hk, hv]
  | cons e fs ih =>
      obtain ⟨k', w⟩ := e
      simp only [fieldsWritable, Bool.and_eq_true] at hfs
      unfold Fields.put
      split
      · simp [fieldsWritable, hfs.1.1, hv, hfs.2]
      · simp [fieldsWritable, hfs.1.1, hfs.1.2, ih hfs.2]

mutual

theorem isWritable_bindName {name : Nat} {whole : Value} (hwhole : whole.isWritable = true) :
    ∀ {v : Value}, v.isWritable = true → (bindName name whole v).isWritable = true
  | .scalar s, h => h
  | .list items, h => areWritable_bindNameItems hwhole (show areWritable items = true from h)
  | .mapping fs, h => fieldsWritable_bindNameFields hwhole (show fieldsWritable fs = true from h)
  | .members _, h => h
  | .entry k v, h => by
      simp only [isWritable, Bool.and_eq_true] at h
      simp only [bindName, isWritable, Bool.and_eq_true]
      exact ⟨isWritable_bindName hwhole h.1, isWritable_bindName hwhole h.2⟩
  | .named n v, h => by
      unfold bindName
      split
      · exact h
      · exact isWritable_bindName hwhole (show v.isWritable = true from h)
  | .again n _, _ => by
      unfold bindName
      split
      · exact hwhole
      · rfl

theorem areWritable_bindNameItems {name : Nat} {whole : Value} (hwhole : whole.isWritable = true) :
    ∀ {vs : List Value}, areWritable vs = true → areWritable (bindNameItems name whole vs) = true
  | [], _ => rfl
  | v :: vs, h => by
      simp only [areWritable, Bool.and_eq_true] at h
      simp only [bindNameItems, areWritable, Bool.and_eq_true]
      exact ⟨isWritable_bindName hwhole h.1, areWritable_bindNameItems hwhole h.2⟩

theorem fieldsWritable_bindNameFields {name : Nat} {whole : Value} (hwhole : whole.isWritable = true) :
    ∀ {fs : Fields}, fieldsWritable fs = true → fieldsWritable (bindNameFields name whole fs) = true
  | [], _ => rfl
  | (k, v) :: fs, h => by
      simp only [fieldsWritable, Bool.and_eq_true] at h
      simp only [bindNameFields, fieldsWritable, Bool.and_eq_true]
      exact ⟨⟨h.1.1, isWritable_bindName hwhole h.1.2⟩, fieldsWritable_bindNameFields hwhole h.2⟩

end

theorem isWritable_opened {v : Value} (h : v.isWritable = true) : v.opened.isWritable = true := by
  unfold opened
  split
  · exact isWritable_bindName h h
  · exact h

theorem areWritable_of_items? {v : Value} {items : List Value} (h : v.isWritable = true)
    (hitems : v.items? = some items) : areWritable items = true := by
  unfold items? at hitems
  split at hitems
  · next hopened =>
      cases hitems
      have hwritable := isWritable_opened h
      rw [hopened] at hwritable
      exact hwritable
  · cases hitems

theorem fieldsWritable_of_fields? {v : Value} {fs : Fields} (h : v.isWritable = true)
    (hfs : v.fields? = some fs) : fieldsWritable fs = true := by
  unfold fields? at hfs
  split at hfs
  · next hopened =>
      cases hfs
      have hwritable := isWritable_opened h
      rw [hopened] at hwritable
      exact hwritable
  · cases hfs

theorem isWritable_of_get? {fs : Fields} {k : String} {v : Value} (h : fieldsWritable fs = true)
    (hv : fs.get? k = some v) : v.isWritable = true := by
  induction fs with
  | nil => cases hv
  | cons e fs ih =>
      obtain ⟨k', w⟩ := e
      simp only [fieldsWritable, Bool.and_eq_true] at h
      unfold Fields.get? Fields.find? at hv
      split at hv
      · cases hv
        exact h.1.2
      · exact ih h.2 hv

theorem isWritable_getD {fs : Fields} {k : String} {other : Value} (h : fieldsWritable fs = true)
    (hother : other.isWritable = true) : (fs.getD k other).isWritable = true := by
  unfold Fields.getD
  cases hv : fs.get? k with
  | none => exact hother
  | some v => exact isWritable_of_get? h hv

theorem toText?_of_isWritable {v : Value} (h : v.isWritable = true) : v.toText? = .ok v.toText := if_pos h

theorem shown?_of_isWritable {v : Value} (h : v.isWritable = true) : v.shown? = .ok v.shown := if_pos h

end Value

end SiteTrial
