import SiteTrial.Proofs.Value.Writable
import SiteTrial.Json.Reader

/-!
# What is read can be written

An integer with more digits than can be written is no token, so that none stands in a value that is
read.

* `Token.isWritable_of_mem_ofChars` : the tokens of a text;
* `Holds`, `holds_of_step` : what a step of the reader keeps;
* `isWritable_of_read` : the value of a text.
-/

namespace SiteTrial

/-- Digits behind a number, which is below the next one with as many zeros. -/
theorem Decimal.foldl_digits_lt {ds : List Nat} (h : ∀ d ∈ ds, d < 10) (n : Nat) :
    ds.foldl (fun n d => 10 * n + d) n < (n + 1) * Nat.pow 10 ds.length := by
  induction ds generalizing n with
  | nil => exact Nat.lt_of_lt_of_eq (Nat.lt_succ_self n) (Nat.mul_one _).symm
  | cons d ds ih =>
      have hd := h d (List.mem_cons_self ..)
      calc ds.foldl (fun n d => 10 * n + d) (10 * n + d)
          < (10 * n + d + 1) * Nat.pow 10 ds.length := ih (fun e he => h e (List.mem_cons_of_mem _ he)) _
        _ ≤ (n + 1) * 10 * Nat.pow 10 ds.length := Nat.mul_le_mul_right _ (by omega)
        _ = (n + 1) * (Nat.pow 10 ds.length * 10) := by rw [Nat.mul_assoc, Nat.mul_comm 10]
        _ = (n + 1) * Nat.pow 10 (d :: ds).length := rfl

theorem Decimal.ofDigits_lt_pow {ds : List Nat} {n : Nat} (h : ∀ d ∈ ds, d < 10) (hn : ds.length ≤ n) :
    ofDigits ds < Nat.pow 10 n := by
  have hlt := foldl_digits_lt h 0
  rw [Nat.zero_add, Nat.one_mul] at hlt
  exact Nat.lt_of_lt_of_le hlt (Nat.pow_le_pow_right (by decide) hn)

namespace Json

/-! ## Tokens -/

theorem digit_lt {c : Char} (h : c.isDigit = true) : c.toNat - 48 < 10 := by
  simp only [Char.isDigit, Bool.and_eq_true, decide_eq_true_eq, UInt32.le_iff_toNat_le] at h
  have : c.toNat ≤ 57 := h.2
  omega

namespace Token

/-- Whether the value of a token can be written. -/
def isWritable : Token → Bool
  | .value v => v.isWritable
  | _ => true

@[simp] theorem isWritable_text (s : String) : (text s).isWritable = true := rfl

theorem isWritable_value (v : Scalar) : (value v).isWritable = v.isWritable := rfl

@[simp] theorem isWritable_malformed : malformed.isWritable = true := rfl

end Token

theorem isDigit_of_wholePart? {cs whole rest : List Char} (h : wholePart? cs = some (whole, rest)) :
    ∀ c ∈ whole, c.isDigit = true := by
  have hdigits : digitsThen? cs = some (whole, rest) := by
    unfold wholePart? at h
    split at h
    · next heq =>
        cases h
        exact heq
    · cases h
    · exact h
  unfold digitsThen? Decimal.spanDigits at hdigits
  dsimp only at hdigits
  split at hdigits
  · cases hdigits
  · cases hdigits
    exact fun c hc => List.all_eq_true.1 List.all_takeWhile c hc

theorem natAbs_signed (negative : Bool) (n : Nat) : (if negative then -(n : Int) else n).natAbs = n := by
  cases negative <;> simp

theorem isWritable_number (cs : List Char) : (number cs).isWritable = true := by
  unfold number
  dsimp only
  split
  · rfl
  · next whole rest hwhole =>
      split
      · unfold doubleToken
        dsimp only
        split
        · rfl
        · split <;> rfl
      · split
        · rfl
        · next hlength =>
            split
            · rfl
            · rw [Token.isWritable_value, Scalar.isWritable_int_iff, natAbs_signed]
              have hdigits : ∀ d ∈ whole.map fun c => c.toNat - 48, d < 10 := by
                intro d hd
                obtain ⟨c, hc, rfl⟩ := List.mem_map.1 hd
                exact digit_lt (isDigit_of_wholePart? hwhole c hc)
              refine Decimal.ofDigits_lt_pow hdigits ?_
              rw [List.length_map]
              exact Nat.le_of_not_lt hlength

theorem isWritable_word (cs : List Char) : (word cs).isWritable = true := by
  unfold word
  iterate 6
    split
    · rfl
  exact isWritable_number cs

theorem isWritable_of_mark? {c : Char} {t : Token} (h : mark? c = some t) : t.isWritable = true := by
  unfold mark? at h
  iterate 6
    split at h
    · cases h
      rfl
  cases h

theorem Reading.isWritable_of_plain {c : Char} {gathered : List Char} {ts : List Token} {next : Reading}
    (h : step.plain c gathered = some (ts, next)) : ∀ t ∈ ts, t.isWritable = true := by
  unfold step.plain at h
  split at h
  · cases h
    simp
  · split at h
    · cases h
      nofun
    · split at h
      · cases h
      · cases h
        nofun

theorem Reading.isWritable_of_escaped {c : Char} {gathered : List Char} {high : Option Nat}
    {ts : List Token} {next : Reading} (h : step.escaped c gathered high = some (ts, next)) :
    ∀ t ∈ ts, t.isWritable = true := by
  unfold step.escaped at h
  split at h
  · cases h
    nofun
  · obtain ⟨d, -, hd⟩ := Option.map_eq_some_iff.1 h
    cases hd
    nofun

/-- A step finishes only tokens that can be written. -/
theorem Reading.isWritable_of_step {r : Reading} {c : Char} {ts : List Token} {next : Reading}
    (h : r.step c = some (ts, next)) : ∀ t ∈ ts, t.isWritable = true := by
  cases r with
  | between =>
      simp only [step] at h
      split at h
      · cases h
        nofun
      · split at h
        · cases h
          nofun
        · split at h
          · cases h
            nofun
          · obtain ⟨t, ht, hts⟩ := Option.map_eq_some_iff.1 h
            cases hts
            simp [isWritable_of_mark? ht]
  | word gathered =>
      simp only [step] at h
      split at h
      · cases h
        nofun
      · split at h
        · cases h
          simp [isWritable_word]
        · split at h
          · cases h
            simp [isWritable_word]
          · cases h
            cases hmark : mark? c with
            | none => simp [isWritable_word]
            | some t => simp [isWritable_word, isWritable_of_mark? hmark]
  | text gathered => exact isWritable_of_plain h
  | escape gathered => exact isWritable_of_escaped h
  | code gathered high digits =>
      simp only [step] at h
      split at h
      · cases h
      · split at h
        · cases h
          nofun
        · obtain ⟨n, -, hn⟩ := Option.map_eq_some_iff.1 h
          cases hn
          nofun
  | afterHigh gathered high =>
      simp only [step] at h
      split at h
      · cases h
        nofun
      · exact isWritable_of_plain h
  | afterHighEscape gathered high => exact isWritable_of_escaped h

theorem Token.isWritable_of_mem_read {r : Reading} {cs : List Char} :
    ∀ t ∈ read r cs, t.isWritable = true := by
  induction cs generalizing r with
  | nil => cases r <;> simp [read, isWritable_word]
  | cons c cs ih =>
      intro t ht
      unfold read at ht
      cases hstep : r.step c with
      | none => simp_all
      | some next =>
          simp only [hstep] at ht
          obtain hfirst | hrest := List.mem_append.1 ht
          · exact Reading.isWritable_of_step hstep t hfirst
          · exact ih t hrest

/-! ## Values -/

/-- What an open list or mapping holds can be written. -/
def Frame.IsWritable : Frame → Prop
  | .list items => Value.areWritable items = true
  | .mapping fields _ => Value.fieldsWritable fields = true

/-- What is held until the next token can be written. -/
def Expecting.IsWritable : Expecting → Prop
  | .afterItem items => Value.areWritable items = true
  | .firstKey fields | .key fields | .colon fields _ | .afterEntry fields => Value.fieldsWritable fields = true
  | .nothing v => v.isWritable = true
  | .value | .firstItem => True

/-- All that the reader holds can be written. -/
def Holds (here : List Frame × Expecting) : Prop := (∀ f ∈ here.1, f.IsWritable) ∧ here.2.IsWritable

theorem holds_settle {stack : List Frame} {v : Value} (hstack : ∀ f ∈ stack, f.IsWritable)
    (hv : v.isWritable = true) : Holds (settle stack v) := by
  cases stack with
  | nil => exact ⟨hstack, hv⟩
  | cons f rest =>
      have hf := hstack f (List.mem_cons_self ..)
      have hrest : ∀ g ∈ rest, g.IsWritable := fun g hg => hstack g (List.mem_cons_of_mem _ hg)
      cases f with
      | list items =>
          refine ⟨hrest, ?_⟩
          show Value.areWritable (v :: items) = true
          rw [Value.areWritable, hv]
          exact hf
      | mapping fields key => exact ⟨hrest, Value.fieldsWritable_put hf rfl hv⟩

theorem holds_of_begin {stack : List Frame} {t : Token} {next : List Frame × Expecting}
    (hstack : ∀ f ∈ stack, f.IsWritable) (ht : t.isWritable = true) (h : begin stack t = .ok next) :
    Holds next := by
  unfold begin at h
  split at h
  · unfold enter at h
    split at h
    · cases h
      exact ⟨hstack, trivial⟩
    · cases h
  · unfold enter at h
    split at h
    · cases h
      exact ⟨hstack, rfl⟩
    · cases h
  · cases h
    exact holds_settle hstack rfl
  · cases h
    exact holds_settle hstack ht
  · cases h
  · cases h

/-- What a step keeps. -/
theorem holds_of_step {stack : List Frame} {e : Expecting} {t : Token} {next : List Frame × Expecting}
    (hhere : Holds (stack, e)) (ht : t.isWritable = true) (h : step stack e t = .ok next) : Holds next := by
  obtain ⟨hstack, he⟩ := hhere
  unfold step at h
  split at h
  · exact holds_of_begin hstack ht h
  · cases h
    exact holds_settle hstack rfl
  · refine holds_of_begin ?_ ht h
    rintro f (_ | ⟨_, hf⟩)
    · rfl
    · exact hstack f hf
  · cases h
    exact holds_settle hstack he
  · cases h
    exact ⟨hstack, he⟩
  · cases h
    exact ⟨hstack, he⟩
  · cases h
    refine ⟨?_, trivial⟩
    rintro f (_ | ⟨_, hf⟩)
    · exact he
    · exact hstack f hf
  · cases h
    refine ⟨?_, trivial⟩
    rintro f (_ | ⟨_, hf⟩)
    · exact he
    · exact hstack f hf
  · cases h
    refine holds_settle hstack (Value.areWritable_iff.2 fun v hv => ?_)
    exact Value.areWritable_iff.1 he v (List.mem_reverse.1 hv)
  · cases h
    exact ⟨hstack, he⟩
  · cases h
    exact holds_settle hstack he
  · cases h

theorem isWritable_of_run {stack : List Frame} {e : Expecting} {ts : List Token} {v : Value}
    (hhere : Holds (stack, e)) (hts : ∀ t ∈ ts, t.isWritable = true) (h : run stack e ts = .ok v) :
    v.isWritable = true := by
  induction ts generalizing stack e with
  | nil =>
      unfold run at h
      split at h
      · cases h
        exact hhere.2
      · cases h
  | cons t ts ih =>
      unfold run at h
      split at h
      · cases h
      · next stack' e' hstep =>
          have hnext := holds_of_step hhere (hts t (List.mem_cons_self ..)) hstep
          exact ih hnext (fun u hu => hts u (List.mem_cons_of_mem _ hu)) h

theorem holds_start : Holds ([], .value) := ⟨nofun, trivial⟩

theorem isWritable_of_read {s : String} {v : Value} (h : read s = .ok v) : v.isWritable = true :=
  isWritable_of_run holds_start Token.isWritable_of_mem_read h

end Json

end SiteTrial
