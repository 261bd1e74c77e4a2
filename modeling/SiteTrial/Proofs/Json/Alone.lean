import Mathlib.Algebra.BigOperators.Group.List.Basic
import Mathlib.Algebra.Ring.Int.Defs
import Mathlib.Data.Nat.Cast.Basic
import SiteTrial.Json.Reader

/-!
# A mapping stands alone

A text that ends in a mapping and has something before it is no value. Brackets that are opened are closed
again in every value; so behind what comes first nothing is open if the mapping closes its own, and then
there is nothing for the mapping to be a part of.

* `Token.weight`, `Json.depth` : brackets, and how many are open;
* `Json.reaches_of_step`, `Json.exists_of_run_append` : one token, and several with others behind them;
* `Json.run_append_ne_ok` : tokens in front of a mapping;
* `Token.read_append_cases` : characters in front of others, and their tokens;
* `Json.read_append_ne_ok` : characters in front of a mapping with a first key of letters.
-/

namespace SiteTrial.Json

/-! ## Brackets -/

/-- How many more brackets are open behind a token. -/
def Token.weight : Token → Int
  | .openList | .openMapping => 1
  | .closeList | .closeMapping => -1
  | _ => 0

/-- How many brackets are open. -/
def depth (stack : List Frame) : Expecting → Int
  | .nothing _ => 0
  | .value => stack.length
  | _ => stack.length + 1

theorem depth_empty : depth [] .value = 0 := rfl

/-- Behind a token so many brackets are open, and a value is expected only where one is. -/
structure Reaches (count : Int) (next : List Frame × Expecting) : Prop where
  depth : depth next.1 next.2 = count
  inside : next.2 = .value → next.1 ≠ []

theorem reaches_settle (stack : List Frame) (v : Value) : Reaches stack.length (settle stack v) := by
  match stack with
  | [] => exact ⟨rfl, nofun⟩
  | .list _ :: _ => exact ⟨rfl, nofun⟩
  | .mapping _ _ :: _ => exact ⟨rfl, nofun⟩

theorem reaches_of_begin {stack : List Frame} {t : Token} {next : List Frame × Expecting}
    (h : begin stack t = .ok next) : Reaches (stack.length + t.weight) next := by
  have hdeeper : ∀ e, enter stack e = .ok next → next = (stack, e) := by
    intro e henter
    unfold enter at henter
    split at henter
    · exact (Except.ok.inj henter).symm
    · cases henter
  cases t with
  | openList =>
      obtain rfl := hdeeper _ h
      exact ⟨rfl, nofun⟩
  | openMapping =>
      obtain rfl := hdeeper _ h
      exact ⟨rfl, nofun⟩
  | text s =>
      obtain rfl := Except.ok.inj h
      exact reaches_settle stack _
  | value v =>
      obtain rfl := Except.ok.inj h
      exact reaches_settle stack _
  | _ => cases h

/-- A token opens or closes what it says. -/
theorem reaches_of_step {stack : List Frame} {e : Expecting} {t : Token}
    {next : List Frame × Expecting} (h : step stack e t = .ok next) :
    Reaches (depth stack e + t.weight) next := by
  -- behind the end of a list or mapping there is one bracket less
  have hclosed : ∀ v, Reaches (stack.length + 1 + -1) (settle stack v) := by
    intro v
    rw [Int.add_neg_cancel_right]
    exact reaches_settle stack v
  unfold step at h
  split at h
  · exact reaches_of_begin h
  · obtain rfl := Except.ok.inj h
    exact hclosed _
  · exact reaches_of_begin h
  · obtain rfl := Except.ok.inj h
    exact hclosed _
  · obtain rfl := Except.ok.inj h
    exact ⟨rfl, nofun⟩
  · obtain rfl := Except.ok.inj h
    exact ⟨rfl, nofun⟩
  · obtain rfl := Except.ok.inj h
    exact ⟨rfl, fun _ => List.cons_ne_nil _ _⟩
  · obtain rfl := Except.ok.inj h
    exact ⟨rfl, fun _ => List.cons_ne_nil _ _⟩
  · obtain rfl := Except.ok.inj h
    exact hclosed _
  · obtain rfl := Except.ok.inj h
    exact ⟨rfl, nofun⟩
  · obtain rfl := Except.ok.inj h
    exact hclosed _
  · cases h

/-! ## Tokens -/

theorem exists_of_run_cons {stack : List Frame} {e : Expecting} {t : Token} {ts : List Token} {v : Value}
    (h : run stack e (t :: ts) = .ok v) :
    ∃ next, step stack e t = .ok next ∧ run next.1 next.2 ts = .ok v := by
  rw [run] at h
  rcases hstep : step stack e t with err | next
  · rw [hstep] at h
    cases h
  · rw [hstep] at h
    exact ⟨next, rfl, h⟩

/-- What is reached behind the first ones of tokens that come to a value. -/
theorem exists_of_run_append {count : Int} {here : List Frame × Expecting} {ts us : List Token} {v : Value}
    (hhere : Reaches count here) (h : run here.1 here.2 (ts ++ us) = .ok v) :
    ∃ next, Reaches (count + (ts.map Token.weight).sum) next ∧ run next.1 next.2 us = .ok v := by
  induction ts generalizing count here with
  | nil => exact ⟨here, by simpa using hhere, h⟩
  | cons t ts ih =>
      obtain ⟨next, hstep, h⟩ := exists_of_run_cons h
      have hnext := reaches_of_step hstep
      rw [hhere.depth] at hnext
      obtain ⟨last, hlast, h⟩ := ih hnext h
      refine ⟨last, ?_, h⟩
      rwa [List.map_cons, List.sum_cons, ← Int.add_assoc]

/-- In a value all brackets are closed. -/
theorem weight_of_run {stack : List Frame} {e : Expecting} {t : Token} {ts : List Token} {v : Value}
    (h : run stack e (t :: ts) = .ok v) :
    depth stack e + ((t :: ts).map Token.weight).sum = 0 := by
  obtain ⟨next, hstep, h⟩ := exists_of_run_cons h
  rw [← List.append_nil ts] at h
  obtain ⟨last, hlast, h⟩ := exists_of_run_append (reaches_of_step hstep) h
  have hdone : depth last.1 last.2 = 0 := by
    unfold run at h
    split at h
    · next hnothing => rw [hnothing]; rfl
    · cases h
  rw [List.map_cons, List.sum_cons, ← Int.add_assoc, ← hlast.depth, hdone]

theorem step_openMapping {here next : List Frame × Expecting} (hhere : Reaches 0 here)
    (h : step here.1 here.2 .openMapping = .ok next) : False := by
  obtain ⟨stack, e⟩ := here
  have hdepth : depth stack e = 0 := hhere.depth
  have hpos : ∀ n : Nat, (n : Int) + 1 ≠ 0 := by omega
  cases e with
  | value =>
      have hempty : stack = [] := List.length_eq_zero_iff.1 (Int.natCast_eq_zero.1 hdepth)
      exact hhere.inside rfl hempty
  | nothing v => cases h
  | _ => exact hpos _ hdepth

/-- Tokens that come to a value by themselves, and begin a mapping, do not with others in front. -/
theorem run_append_ne_ok {ts us : List Token} {v : Value} (hts : ts ≠ [])
    (h : run [] .value (.openMapping :: us) = .ok v) (w : Value) :
    run [] .value (ts ++ .openMapping :: us) ≠ .ok w := by
  intro hw
  obtain ⟨t, ts, rfl⟩ := List.exists_cons_of_ne_nil hts
  obtain ⟨next, hstep, hrest⟩ := exists_of_run_cons hw
  obtain ⟨last, hlast, hrest⟩ := exists_of_run_append (reaches_of_step hstep) hrest
  obtain ⟨_, hopen, -⟩ := exists_of_run_cons hrest
  -- the mapping closes its brackets, and so do all tokens together
  have hmapping := weight_of_run h
  have hall : depth [] .value + ((t :: (ts ++ .openMapping :: us)).map Token.weight).sum = 0 :=
    weight_of_run hw
  simp only [List.map_cons, List.map_append, List.sum_cons, List.sum_append, depth_empty,
    Int.zero_add] at hmapping hall hlast
  have hfirst : t.weight + (ts.map Token.weight).sum = 0 := by omega
  rw [hfirst] at hlast
  exact step_openMapping hlast hopen

theorem run_ne_ok_of_malformed {stack : List Frame} {e : Expecting} {ts : List Token}
    (h : .malformed ∈ ts) (v : Value) : run stack e ts ≠ .ok v := by
  intro hv
  induction ts generalizing stack e with
  | nil => cases h
  | cons t ts ih =>
      obtain ⟨next, hstep, hv⟩ := exists_of_run_cons hv
      rcases List.mem_cons.1 h with rfl | h
      · cases e <;> cases hstep
      · exact ih h hv

/-! ## Characters -/

theorem eq_of_isGap {c : Char} (h : isGap c = true) : c = ' ' ∨ c = '\n' ∨ c = '\t' ∨ c = '\r' := by
  simpa only [isGap, Bool.or_eq_true, beq_iff_eq, or_assoc] using h

/-- A text or word that ends gives a token. -/
theorem Reading.eq_between_of_step {r : Reading} {c : Char} (h : r.step c = some ([], .between)) :
    r = .between := by
  have hplain : ∀ gathered, Reading.step.plain c gathered ≠ some ([], .between) := by
    intro gathered
    unfold Reading.step.plain
    split_ifs <;> simp
  have hescaped : ∀ gathered high, Reading.step.escaped c gathered high ≠ some ([], .between) := by
    intro gathered high
    unfold Reading.step.escaped
    split_ifs <;> simp
  have hunit : ∀ gathered high n, addUnit gathered high n ≠ .between := by
    intro gathered high n
    unfold addUnit
    split
    all_goals split_ifs <;> nofun
  cases r with
  | between => rfl
  | word gathered =>
      unfold Reading.step at h
      dsimp only at h
      split_ifs at h
      all_goals simp at h
  | text gathered => exact absurd h (hplain gathered)
  | escape gathered => exact absurd h (hescaped gathered none)
  | code gathered high digits =>
      unfold Reading.step at h
      dsimp only at h
      split_ifs at h
      · simp at h
      · obtain ⟨n, -, hn⟩ := Option.map_eq_some_iff.1 h
        exact absurd (Prod.mk.inj hn).2 (hunit _ _ _)
  | afterHigh gathered high =>
      unfold Reading.step at h
      dsimp only at h
      split_ifs at h
      · simp at h
      · exact absurd h (hplain _)
  | afterHighEscape gathered high => exact absurd h (hescaped gathered (some high))

theorem Reading.ne_between_of_step {c : Char} (hc : isGap c = false) {next : Reading}
    (h : Reading.between.step c = some ([], next)) : next ≠ .between := by
  rintro rfl
  unfold Reading.step at h
  dsimp only at h
  rw [hc, if_neg Bool.false_ne_true] at h
  split_ifs at h
  all_goals simp at h

namespace Token

/-- Characters with others behind them: their tokens, and what the first ones leave open. -/
theorem read_append_cases (r : Reading) (cs ds : List Char) :
    .malformed ∈ read r (cs ++ ds) ∨ ∃ ts next, read r (cs ++ ds) = ts ++ read next ds ∧
      (next = .between → ts = [] → r = .between) := by
  induction cs generalizing r with
  | nil => exact .inr ⟨[], r, rfl, fun h _ => h⟩
  | cons c cs ih =>
      rw [List.cons_append, read]
      rcases hstep : r.step c with _ | ⟨us, mid⟩
      · exact .inl (List.mem_singleton_self _)
      · obtain hbad | ⟨ts, next, hread, hleft⟩ := ih mid
        · exact .inl (List.mem_append_right _ hbad)
        · refine .inr ⟨us ++ ts, next, ?_, fun hnext hnone => ?_⟩
          · dsimp only
            rw [hread, List.append_assoc]
          · obtain ⟨rfl, rfl⟩ := List.append_eq_nil_iff.1 hnone
            obtain rfl := hleft hnext rfl
            exact Reading.eq_between_of_step hstep

/-- As before, from the beginning and with a character in front that is no gap. -/
theorem ofChars_append_cases {c : Char} (hc : isGap c = false) (cs ds : List Char) :
    .malformed ∈ ofChars (c :: cs ++ ds) ∨ ∃ ts next, ofChars (c :: cs ++ ds) = ts ++ read next ds ∧
      (next = .between → ts ≠ []) := by
  rw [ofChars, List.cons_append, read]
  rcases hstep : Reading.between.step c with _ | ⟨us, mid⟩
  · exact .inl (List.mem_singleton_self _)
  · obtain hbad | ⟨ts, next, hread, hleft⟩ := read_append_cases mid cs ds
    · exact .inl (List.mem_append_right _ hbad)
    · refine .inr ⟨us ++ ts, next, ?_, fun hnext hnone => ?_⟩
      · dsimp only
        rw [hread, List.append_assoc]
      · obtain ⟨rfl, rfl⟩ := List.append_eq_nil_iff.1 hnone
        exact Reading.ne_between_of_step hc hstep (hleft hnext rfl)

theorem read_word {key : List Char} (hkey : ∀ c ∈ key, isWordPart c = true) (gathered rest : List Char) :
    read (.word gathered) (key ++ rest) = read (.word (key.reverse ++ gathered)) rest := by
  induction key generalizing gathered with
  | nil => rfl
  | cons c key ih =>
      have hstep : (Reading.word gathered).step c = some ([], .word (c :: gathered)) := by
        unfold Reading.step
        dsimp only
        rw [if_pos (hkey c (List.mem_cons_self ..))]
      rw [List.cons_append, read, hstep]
      dsimp only
      rw [List.nil_append, ih fun d hd => hkey d (List.mem_cons_of_mem _ hd), List.reverse_cons,
        List.append_assoc, List.singleton_append]

section

variable {key : List Char} (hword : ∀ c ∈ key, isWordPart c = true) (hnone : word key = .malformed)
  (hkey : key ≠ [])
include hword hnone hkey

/-- Where a text ends before a word, there is a value before a word that is none. -/
theorem malformed_mem_read_text (gathered rest : List Char) :
    .malformed ∈ read (.text gathered) ('"' :: (key ++ '"' :: rest)) := by
  obtain ⟨c, key, rfl⟩ := List.exists_cons_of_ne_nil hkey
  have hc := hword c (List.mem_cons_self ..)
  have hbegin : Reading.between.step c = some ([], .word [c]) := by
    have hgap : isGap c = false := by
      rw [Bool.eq_false_iff]
      intro hgap
      rcases eq_of_isGap hgap with rfl | rfl | rfl | rfl <;> exact absurd hc (by decide)
    have hquote : c ≠ '"' := by
      rintro rfl
      exact absurd hc (by decide)
    unfold Reading.step
    dsimp only
    rw [hgap, if_neg Bool.false_ne_true, if_neg hquote, if_pos hc]
  have hend : (Reading.word (key.reverse ++ [c])).step '"' = some ([word (c :: key)], .text []) := by
    rw [← List.reverse_cons]
    unfold Reading.step
    dsimp only
    rw [List.reverse_reverse]
    rfl
  have hrest : read (.text gathered) ('"' :: (c :: key ++ '"' :: rest)) =
      .text (String.ofList gathered.reverse) :: word (c :: key) :: read (.text []) rest := by
    rw [read, show (Reading.text gathered).step '"' = some ([_], .between) from rfl]
    dsimp only
    rw [List.singleton_append, List.cons_append, read, hbegin]
    dsimp only
    rw [List.nil_append, read_word fun d hd => hword d (List.mem_cons_of_mem _ hd), read, hend]
    rfl
  rw [hrest, hnone]
  exact List.mem_cons_of_mem _ (List.mem_cons_self ..)

/-- A mapping with such a key begins behind what is left open, or something is malformed. -/
theorem read_mapping_cases (r : Reading) (rest : List Char) :
    .malformed ∈ read r ('\x7b' :: '"' :: (key ++ '"' :: rest)) ∨
      ∃ ts, read r ('\x7b' :: '"' :: (key ++ '"' :: rest)) =
        ts ++ ofChars ('\x7b' :: '"' :: (key ++ '"' :: rest)) ∧ (r ≠ .between → ts ≠ []) := by
  have htext : ∀ gathered, .malformed ∈ read (.text gathered) ('"' :: (key ++ '"' :: rest)) :=
    fun gathered => malformed_mem_read_text hword hnone hkey gathered rest
  cases r with
  | between => exact .inr ⟨[], rfl, fun h => absurd rfl h⟩
  | word gathered => exact .inr ⟨[word gathered.reverse], rfl, fun _ => List.cons_ne_nil _ _⟩
  | text gathered => exact .inl (htext ('\x7b' :: gathered))
  | afterHigh gathered high => exact .inl (htext ('\x7b' :: addPoint gathered high))
  | escape gathered => exact .inl (List.mem_singleton_self _)
  | code gathered high digits => exact .inl (List.mem_singleton_self _)
  | afterHighEscape gathered high => exact .inl (List.mem_singleton_self _)

end

end Token

/-- A mapping is no value with something in front that is no gap. -/
theorem read_append_ne_ok {c : Char} (hc : isGap c = false) {key : List Char}
    (hword : ∀ c ∈ key, isWordPart c = true) (hnone : word key = .malformed) (hkey : key ≠ [])
    {rest : List Char} {v : Value} (hv : read (String.ofList ('\x7b' :: '"' :: (key ++ '"' :: rest))) = .ok v)
    (cs : List Char) (w : Value) :
    read (String.ofList (c :: cs ++ '\x7b' :: '"' :: (key ++ '"' :: rest))) ≠ .ok w := by
  rw [read, String.toList_ofList] at hv ⊢
  obtain hbad | ⟨ts, next, hread, hleft⟩ :=
    Token.ofChars_append_cases hc cs ('\x7b' :: '"' :: (key ++ '"' :: rest))
  · exact run_ne_ok_of_malformed hbad w
  obtain hbad | ⟨us, hopen, hus⟩ := Token.read_mapping_cases hword hnone hkey next rest
  · exact run_ne_ok_of_malformed (hread ▸ List.mem_append_right _ hbad) w
  have hfront : ts ++ us ≠ [] := by
    intro hempty
    obtain ⟨rfl, rfl⟩ := List.append_eq_nil_iff.1 hempty
    by_cases hnext : next = .between
    · exact hleft hnext rfl
    · exact hus hnext rfl
  rw [hread, hopen, ← List.append_assoc]
  exact run_append_ne_ok hfront hv w

end SiteTrial.Json
