import SiteTrial.Value.Basic

/-!
# What a value is

* `Value.eq_text_of_text?`, `Value.eq_null_of_isNull` : a value that passes for a text or for the absent
  one is it;
* `Value.isTruthy_opened` : what counts as nothing still does without the name around it;
  `Value.eq_nil_of_items?`, `Value.eq_nil_of_fields?` : a list or mapping that counts as nothing is empty;
* `Value.orElse_of_isTruthy`, `Value.orElse_mapping`, `Value.fields?_orElse` : what stands in for nothing.
-/

namespace SiteTrial.Value

theorem eq_text_of_text? {v : Value} {s : String} (h : v.text? = some s) : v = .text s := by
  unfold text? at h
  split at h
  · cases h
    rfl
  · cases h

theorem eq_null_of_isNull {v : Value} (h : v.isNull = true) : v = .null := by
  unfold isNull at h
  split at h
  · rfl
  · cases h

theorem isNull_of_ne {v : Value} (h : v ≠ .null) : v.isNull = false := by
  cases hnull : v.isNull with
  | false => rfl
  | true => exact absurd (eq_null_of_isNull hnull) h

theorem isTruthy_bindName {name : Nat} {whole : Value} :
    ∀ {v : Value}, v.isTruthy = false → (bindName name whole v).isTruthy = false
  | .scalar _, h => h
  | .list [], _ => rfl
  | .mapping [], _ => rfl
  | .members _, h => h
  | .named m v, h => by
      unfold bindName
      split
      · exact h
      · exact isTruthy_bindName (v := v) h

theorem isTruthy_opened {v : Value} (h : v.isTruthy = false) : v.opened.isTruthy = false := by
  cases v with
  | named m v => exact isTruthy_bindName (v := v) h
  | _ => exact h

/-- A list that counts as nothing has no members, whether it has a name or not. -/
theorem eq_nil_of_items? {v : Value} {items : List Value} (hempty : v.isTruthy = false)
    (h : v.items? = some items) : items = [] := by
  have hopened := isTruthy_opened hempty
  unfold items? at h
  split at h
  · next vs hvs =>
      cases h
      rw [hvs] at hopened
      simpa [isTruthy] using hopened
  · cases h

/-- A mapping that counts as nothing has no entries, whether it has a name or not. -/
theorem eq_nil_of_fields? {v : Value} {fs : Fields} (hempty : v.isTruthy = false)
    (h : v.fields? = some fs) : fs = [] := by
  have hopened := isTruthy_opened hempty
  unfold fields? at h
  split at h
  · next vs hvs =>
      cases h
      rw [hvs] at hopened
      simpa [isTruthy] using hopened
  · cases h

theorem orElse_of_isTruthy {v : Value} (h : v.isTruthy = true) (other : Value) : v.orElse other = v := if_pos h

theorem orElse_of_not_isTruthy {v : Value} (h : v.isTruthy = false) (other : Value) : v.orElse other = other :=
  if_neg (Bool.eq_false_iff.1 h)

theorem orElse_mapping (fs : Fields) : (Value.mapping fs).orElse (.mapping []) = .mapping fs := by
  cases fs <;> rfl

/-- A mapping keeps its entries where a mapping without entries stands in for nothing. -/
theorem fields?_orElse {v : Value} {fs : Fields} (h : v.fields? = some fs) :
    (v.orElse (.mapping [])).fields? = some fs := by
  cases htruthy : v.isTruthy with
  | true => rw [orElse_of_isTruthy htruthy, h]
  | false =>
      rw [orElse_of_not_isTruthy htruthy, eq_nil_of_fields? htruthy h]
      rfl

end SiteTrial.Value
