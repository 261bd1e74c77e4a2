import SiteTrial.Json.Writer

/-!
# A value on one line

Whatever a value holds, its line is made of the visible characters of ASCII and of blanks. So it holds no
end of a line, and where it stands among others nothing runs over from one into the next.

* `Printable` : characters from the blank to the tilde;
* `printable_written`, `printable_textChars` : numbers and texts;
* `printable_line` : every value; `exists_line_mapping` : the line of a mapping stands in brackets.
-/

namespace SiteTrial

/-- Visible characters of ASCII, and blanks. -/
def Printable (cs : List Char) : Prop := ∀ c ∈ cs, 32 ≤ c.toNat ∧ c.toNat < 127

instance (cs : List Char) : Decidable (Printable cs) := List.decidableBAll _ cs

namespace Printable

theorem append {cs ds : List Char} (hc : Printable cs) (hd : Printable ds) : Printable (cs ++ ds) := by
  intro c h
  rcases List.mem_append.1 h with h | h
  · exact hc c h
  · exact hd c h

theorem cons {c : Char} {cs : List Char} (hc : 32 ≤ c.toNat ∧ c.toNat < 127) (h : Printable cs) :
    Printable (c :: cs) := by
  intro d hd
  rcases List.mem_cons.1 hd with rfl | hd
  · exact hc
  · exact h d hd

theorem replicate {c : Char} (hc : 32 ≤ c.toNat ∧ c.toNat < 127) (n : Nat) :
    Printable (List.replicate n c) := by
  intro d hd
  rw [(List.mem_replicate.1 hd).2]
  exact hc

theorem flatMap {α : Type} {l : List α} {f : α → List Char} (h : ∀ a ∈ l, Printable (f a)) :
    Printable (l.flatMap f) := by
  intro c hc
  obtain ⟨a, ha, hc⟩ := List.mem_flatMap.1 hc
  exact h a ha c hc

theorem intercalate {separator : List Char} (hs : Printable separator) :
    ∀ {parts : List (List Char)}, (∀ part ∈ parts, Printable part) →
      Printable (separator.intercalate parts)
  | [], _ => nofun
  | [part], h => by
      rw [List.intercalate_singleton]
      exact h part (List.mem_singleton.2 rfl)
  | part :: next :: rest, h => by
      rw [List.intercalate_cons_cons]
      refine .append (.append (h part (List.mem_cons_self ..)) hs) (intercalate hs ?_)
      exact fun p hp => h p (List.mem_cons_of_mem _ hp)

/-- Printable strings with a printable separator between them. -/
theorem toList_intercalate {separator : String} {parts : List String}
    (hs : Printable separator.toList) (h : ∀ part ∈ parts, Printable part.toList) :
    Printable (separator.intercalate parts).toList := by
  rw [String.toList_intercalate]
  refine intercalate hs fun cs hcs => ?_
  obtain ⟨part, hpart, rfl⟩ := List.mem_map.1 hcs
  exact h part hpart

end Printable

/-! ## Numbers -/

theorem printable_digitChar : ∀ d < 16, 32 ≤ (Nat.digitChar d).toNat ∧ (Nat.digitChar d).toNat < 127 := by
  decide

/-- The digits of a number to a base for which there are digits. -/
theorem printable_toDigits {b : Nat} (hb : 1 < b) (hb' : b ≤ 16) (n : Nat) :
    Printable (Nat.toDigits b n) := by
  induction n using Nat.strongRecOn with
  | ind n ih =>
      rw [Nat.toDigits_eq_if hb]
      split
      · next hn => exact .cons (printable_digitChar n (by omega)) nofun
      · next hn =>
          have hlt : n % b < 16 := by
            have := Nat.mod_lt n (show 0 < b by omega)
            omega
          exact .append (ih (n / b) (Nat.div_lt_self (by omega) hb))
            (.cons (printable_digitChar _ hlt) nofun)

namespace Decimal

theorem printable_digitsOf (n : Nat) : Printable (digitsOf n) :=
  printable_toDigits (by decide) (by decide) n

theorem printable_twoDigits (n : Nat) : Printable (twoDigits n) := by
  unfold twoDigits
  split
  · exact .cons (by decide) (printable_digitsOf n)
  · exact printable_digitsOf n

theorem printable_exponentChars (e : Int) : Printable (exponentChars e) := by
  refine .cons (by decide) (.cons ?_ (printable_twoDigits _))
  split <;> decide

/-- A number is written in the characters of its digits, and a few others. -/
theorem printable_render (l : Layout) {d : Digits} (hd : Printable d.digits) :
    Printable (l.render d) := by
  have hzeros : ∀ n, Printable (List.replicate n '0') := Printable.replicate (by decide)
  unfold Layout.render
  dsimp only
  split
  · split
    · exact .cons (by decide) (.cons (by decide) (.append (hzeros _) hd))
    · split
      · refine .append (.append hd (hzeros _)) ?_
        split
        · exact .cons (by decide) (.cons (by decide) nofun)
        · exact nofun
      · refine .append (fun c hc => hd c (List.mem_of_mem_take hc)) (.cons (by decide) ?_)
        exact fun c hc => hd c (List.mem_of_mem_drop hc)
  · split
    · exact nofun
    · next c hdigits =>
        rw [hdigits] at hd
        exact .cons (hd c (List.mem_singleton.2 rfl)) (printable_exponentChars _)
    · next c rest _ hdigits =>
        rw [hdigits] at hd
        refine .cons (hd c (List.mem_cons_self ..)) (.cons (by decide) (.append ?_ ?_))
        · exact fun c hc => hd c (List.mem_cons_of_mem _ hc)
        · exact printable_exponentChars _

theorem printable_dropTrailingZeros {ds : List Char} (h : Printable ds) :
    Printable (dropTrailingZeros ds) := by
  intro c hc
  exact h c (List.mem_reverse.1 ((List.dropWhile_sublist _).subset (List.mem_reverse.1 hc)))

theorem printable_hit {a : Around} {e : Int} {count : Nat} {d : Digits}
    (h : a.hit? e count = some d) : Printable d.digits := by
  unfold Around.hit? at h
  dsimp only at h
  repeat' split at h
  all_goals cases h
  all_goals exact printable_dropTrailingZeros (printable_digitsOf _)

theorem printable_shortest (m : Nat) (q : Int) : Printable (shortest m q).digits := by
  have hzero : Printable ['0'] := .cons (by decide) nofun
  unfold shortest
  split
  · exact hzero
  · dsimp only
    cases hfound : (List.range 17).findSome? fun i =>
        (Around.of m q).hit? (magnitude (Around.of m q).value (Around.of m q).den) (i + 1) with
    | none => exact hzero
    | some d =>
        obtain ⟨i, -, hi⟩ := List.exists_of_findSome?_eq_some hfound
        exact printable_hit hi

theorem printable_withSign (negative : Bool) {cs : List Char} (h : Printable cs) :
    Printable (withSign negative cs) := by
  unfold withSign
  split
  · exact .cons (by decide) h
  · exact h

theorem printable_written (x : Float) : Printable (written x).toList := by
  rw [written, String.toList_ofList]
  unfold writtenChars
  split
  · exact printable_withSign _ (printable_render _ (printable_shortest _ _))
  · unfold specialChars
    split
    · exact printable_withSign _ (by decide)
    · decide

end Decimal

theorem printable_toString_int (n : Int) : Printable (toString n).toList := by
  have hnat : ∀ m : Nat, Printable m.repr.toList := by
    intro m
    rw [Nat.toList_repr]
    exact printable_toDigits (by decide) (by decide) m
  cases n with
  | ofNat m => exact hnat m
  | negSucc m =>
      show Printable ("-" ++ (m + 1).repr).toList
      rw [String.toList_append]
      exact .append (by decide) (hnat _)

namespace Json

theorem printable_doubleText (x : Float) : Printable (doubleText x).toList := by
  unfold doubleText
  split
  · decide
  · split
    · split <;> decide
    · exact Decimal.printable_written x

/-! ## Texts -/

theorem printable_hexChars (width n : Nat) : Printable (Text.hexChars width n) :=
  .append (.replicate (by decide) _) (printable_toDigits (by decide) (by decide) n)

theorem printable_unitChars (n : Nat) : Printable (unitChars n) :=
  .cons (by decide) (.cons (by decide) (printable_hexChars 4 n))

theorem printable_pointChars (n : Nat) : Printable (pointChars n) := by
  unfold pointChars
  split
  · exact printable_unitChars n
  · exact .append (printable_unitChars _) (printable_unitChars _)

theorem printable_charChars (c : Char) : Printable (charChars c) := by
  unfold charChars
  repeat' split
  all_goals first
    | decide
    | exact printable_pointChars _
    | exact .cons ‹32 ≤ c.toNat ∧ c.toNat < 127› nofun

theorem printable_textChars (s : String) : Printable (textChars s).toList := by
  rw [textChars, String.toList_ofList]
  refine .cons (by decide) (.append (.flatMap fun piece _ => ?_) (by decide))
  unfold pieceChars
  split
  · exact printable_charChars _
  · exact printable_pointChars _

theorem printable_scalarText (s : Scalar) : Printable (scalarText s).toList := by
  cases s with
  | null => decide
  | bool b => cases b <;> decide
  | int n => exact printable_toString_int n
  | double x => exact printable_doubleText x
  | text _ | date _ | moment _ | bytes _ => exact printable_textChars _

/-! ## Values -/

mutual

theorem printable_line : ∀ v : Value, Printable (line v).toList
  | .scalar s => by
      rw [line]
      exact printable_scalarText s
  | .list items => by
      rw [line, String.toList_append, String.toList_append]
      exact .append (.append (by decide) (.toList_intercalate (by decide) (printable_lineItems items)))
        (by decide)
  | .mapping fs => by
      rw [line, String.toList_append, String.toList_append]
      exact .append (.append (by decide) (.toList_intercalate (by decide) (printable_lineFields fs)))
        (by decide)
  | .members ks => by
      rw [line, String.toList_append, String.toList_append]
      refine .append (.append (by decide) (.toList_intercalate (by decide) fun part hpart => ?_))
        (by decide)
      obtain ⟨k, -, rfl⟩ := List.mem_map.1 hpart
      exact printable_scalarText k
  | .entry k v => by
      rw [line, String.toList_append, String.toList_append, String.toList_append,
        String.toList_append]
      exact .append (.append (.append (.append (by decide) (printable_line k)) (by decide))
        (printable_line v)) (by decide)
  | .named _ v => by
      rw [line]
      exact printable_line v
  | .again _ isMapping => by
      rw [line]
      cases isMapping <;> decide

/-- The members of a list. -/
theorem printable_lineItems : ∀ vs : List Value, ∀ s ∈ lineItems vs, Printable s.toList
  | [], _, hs => by
      rw [lineItems] at hs
      cases hs
  | v :: vs, s, hs => by
      rw [lineItems] at hs
      rcases List.mem_cons.1 hs with rfl | hs
      · exact printable_line v
      · exact printable_lineItems vs s hs

/-- The entries of a mapping. -/
theorem printable_lineFields :
    ∀ fs : List (Scalar × Value), ∀ s ∈ lineFields fs, Printable s.toList
  | [], _, hs => by
      rw [lineFields] at hs
      cases hs
  | (k, v) :: fs, s, hs => by
      rw [lineFields] at hs
      rcases List.mem_cons.1 hs with rfl | hs
      · rw [String.toList_append, String.toList_append]
        exact .append (.append (printable_textChars _) (by decide)) (printable_line v)
      · exact printable_lineFields fs s hs

end

/-- The line of a mapping stands in brackets. -/
theorem exists_line_mapping (fs : Fields) :
    ∃ inner, (line (.mapping fs)).toList = '\x7b' :: inner ++ ['\x7d'] := by
  rw [line, String.toList_append, String.toList_append]
  exact ⟨_, rfl⟩

end Json

end SiteTrial
