import SiteTrial.Json.Reader
import SiteTrial.Json.Writer

/-!
# A value from its tokens

The reader finds a value again from its tokens, so that nothing can be lost between the line of a value
and the value but in the spelling of its texts and numbers.

* `Json.tokens` : the tokens that the line of a value should have;
* `Json.isDocument` : lists and mappings that are not too deep, each key a text that is there once;
* `Json.run_tokens` : what the reader makes of the tokens;
* `Json.read_line` : a value is read from its line if the line has these tokens.
-/

namespace SiteTrial.Json

def scalarToken : Scalar → Token
  | .text s => .text s
  | s => .value s

mutual

def tokens : Value → List Token
  | .scalar s => [scalarToken s]
  | .list [] => [.openList, .closeList]
  | .list (v :: vs) => .openList :: tokens v ++ itemTokens vs
  | .mapping [] => [.openMapping, .closeMapping]
  | .mapping ((k, v) :: fs) =>
    .openMapping :: .text k.toText :: .colon :: tokens v ++ entryTokens fs
  | _ => [.malformed]

/-- The tokens of the further members of a list. -/
def itemTokens : List Value → List Token
  | [] => [.closeList]
  | v :: vs => .comma :: tokens v ++ itemTokens vs

/-- The tokens of the further entries of a mapping. -/
def entryTokens : List (Scalar × Value) → List Token
  | [] => [.closeMapping]
  | (k, v) :: fs => .comma :: .text k.toText :: .colon :: tokens v ++ entryTokens fs

end

mutual

def isDocument (room : Nat) : Value → Bool
  | .scalar _ => true
  | .list vs => 0 < room && areDocuments (room - 1) vs
  | .mapping fs => 0 < room && areEntries (room - 1) [] fs
  | _ => false

/-- Members of a list, for which there is room. -/
def areDocuments (room : Nat) : List Value → Bool
  | [] => true
  | v :: vs => isDocument room v && areDocuments room vs

/-- Entries of a mapping, none of which has a key of those before. -/
def areEntries (room : Nat) (before : List Scalar) : List (Scalar × Value) → Bool
  | [] => true
  | (k, v) :: fs =>
    k == .text k.toText && before.all (fun b => !b.same k) && isDocument room v &&
      areEntries room (before ++ [k]) fs

end

/-! ## Reading -/

/-- What the reader does behind a complete value. -/
def proceed (stack : List Frame) (v : Value) (rest : List Token) : Except Error Value :=
  run (settle stack v).1 (settle stack v).2 rest

theorem put_of_new {fs : Fields} {k : Scalar} (h : ∀ e ∈ fs, e.1.same k = false) (v : Value) :
    Fields.put fs k v = fs ++ [(k, v)] := by
  induction fs with
  | nil => rfl
  | cons e fs ih =>
      rw [Fields.put, h e (List.mem_cons_self ..), if_neg (by simp),
        ih fun e he => h e (List.mem_cons_of_mem _ he)]
      rfl

theorem run_cons {stack stack' : List Frame} {e e' : Expecting} {t : Token}
    (h : step stack e t = .ok (stack', e')) (ts : List Token) :
    run stack e (t :: ts) = run stack' e' ts := by
  rw [run, h]

theorem run_openList {stack : List Frame} (h : stack.length < deepest) (ts : List Token) :
    run stack .value (.openList :: ts) = run stack .firstItem ts := by
  refine run_cons ?_ ts
  exact if_pos h

theorem run_openMapping {stack : List Frame} (h : stack.length < deepest) (ts : List Token) :
    run stack .value (.openMapping :: ts) = run stack (.firstKey []) ts := by
  refine run_cons ?_ ts
  exact if_pos h

theorem run_firstItem (stack : List Frame) (v : Value) (rest : List Token) :
    run stack .firstItem (tokens v ++ rest) = run (.list [] :: stack) .value (tokens v ++ rest) := by
  have hfirst : ∀ t ts, t ≠ .closeList →
      run stack .firstItem (t :: ts) = run (.list [] :: stack) .value (t :: ts) := by
    intro t ts ht
    cases t with
    | closeList => exact absurd rfl ht
    | _ => rfl
  cases v with
  | scalar s =>
      rw [tokens]
      refine hfirst _ _ ?_
      cases s <;> simp [scalarToken]
  | list vs => cases vs <;> exact hfirst _ _ (by simp)
  | mapping fs => cases fs <;> exact hfirst _ _ (by simp)
  | _ => exact hfirst _ _ (by simp)

theorem areEntries_cons {room : Nat} (before : List (Scalar × Value)) {k : Scalar} {v : Value}
    {fs : List (Scalar × Value)} (h : areEntries room (before.map Prod.fst) ((k, v) :: fs) = true) :
    k = .text k.toText ∧ (∀ e ∈ before, e.1.same k = false) ∧ isDocument room v = true ∧
      areEntries room ((before ++ [(k, v)]).map Prod.fst) fs = true := by
  rw [areEntries, Bool.and_eq_true, Bool.and_eq_true, Bool.and_eq_true, beq_iff_eq, List.all_map,
    List.all_eq_true] at h
  obtain ⟨⟨⟨hk, hnew⟩, hv⟩, hfs⟩ := h
  refine ⟨hk, fun e he => ?_, hv, ?_⟩
  · have hnot := hnew e he
    rwa [Function.comp_apply, Bool.not_eq_true'] at hnot
  · rwa [List.map_append]

theorem run_entry {stack : List Frame} {before : Fields} {k : Scalar} {v : Value} {rest : List Token}
    (hk : k = .text k.toText) (hnew : ∀ e ∈ before, e.1.same k = false)
    (hv : run (.mapping before k.toText :: stack) .value (tokens v ++ rest) =
      proceed (.mapping before k.toText :: stack) v rest) :
    run stack (.colon before k.toText) (.colon :: (tokens v ++ rest)) =
      run stack (.afterEntry (before ++ [(k, v)])) rest := by
  rw [run_cons rfl, hv]
  show run stack (.afterEntry (Fields.put before (.text k.toText) v)) rest = _
  rw [← hk, put_of_new hnew]

mutual

/-- The reader finds a value from its tokens, whatever is open around it and comes behind it. -/
theorem run_tokens {room : Nat} {stack : List Frame} (hroom : stack.length + room ≤ deepest) :
    ∀ (v : Value) (rest : List Token), isDocument room v = true →
      run stack .value (tokens v ++ rest) = proceed stack v rest
  | .scalar s, rest, _ => by
      rw [tokens]
      cases s <;> exact run_cons rfl rest
  | .list [], rest, h => by
      rw [isDocument, Bool.and_eq_true, decide_eq_true_eq] at h
      exact (run_openList (by omega) _).trans (run_cons rfl rest)
  | .list (v :: vs), rest, h => by
      rw [isDocument, Bool.and_eq_true, decide_eq_true_eq, areDocuments, Bool.and_eq_true] at h
      obtain ⟨hpos, hv, hvs⟩ := h
      simp only [tokens, List.cons_append, List.append_assoc]
      rw [run_openList (by omega), run_firstItem,
        run_tokens (by rw [List.length_cons]; omega) v _ hv]
      show run stack (.afterItem [v]) _ = _
      exact run_itemTokens (by omega) vs [v] rest hvs
  | .mapping [], rest, h => by
      rw [isDocument, Bool.and_eq_true, decide_eq_true_eq] at h
      exact (run_openMapping (by omega) _).trans (run_cons rfl rest)
  | .mapping ((k, v) :: fs), rest, h => by
      rw [isDocument, Bool.and_eq_true, decide_eq_true_eq] at h
      obtain ⟨hpos, h⟩ := h
      obtain ⟨hk, hnew, hv, hfs⟩ := areEntries_cons [] h
      simp only [tokens, List.cons_append, List.append_assoc]
      rw [run_openMapping (by omega)]
      show run stack (.colon [] k.toText) _ = _
      rw [run_entry hk hnew (run_tokens (by rw [List.length_cons]; omega) v _ hv)]
      exact run_entryTokens (by omega) fs [(k, v)] rest hfs
  | .members _, _, h => by cases h
  | .entry _ _, _, h => by cases h
  | .named _ _, _, h => by cases h
  | .again _ _, _, h => by cases h

/-- Further members of a list that is open. -/
theorem run_itemTokens {room : Nat} {stack : List Frame} (hroom : stack.length + 1 + room ≤ deepest) :
    ∀ (vs items : List Value) (rest : List Token), areDocuments room vs = true →
      run stack (.afterItem items) (itemTokens vs ++ rest) =
        proceed stack (.list (items.reverse ++ vs)) rest
  | [], items, rest, _ => by
      rw [itemTokens, List.append_nil]
      exact run_cons rfl rest
  | v :: vs, items, rest, h => by
      rw [areDocuments, Bool.and_eq_true] at h
      simp only [itemTokens, List.cons_append, List.append_assoc]
      rw [run_cons rfl, run_tokens (by rw [List.length_cons]; omega) v _ h.1]
      show run stack (.afterItem (v :: items)) _ = _
      rw [run_itemTokens hroom vs (v :: items) rest h.2, List.reverse_cons, List.append_assoc]
      rfl

/-- Further entries of a mapping that is open. -/
theorem run_entryTokens {room : Nat} {stack : List Frame} (hroom : stack.length + 1 + room ≤ deepest) :
    ∀ (fs before : List (Scalar × Value)) (rest : List Token),
      areEntries room (before.map Prod.fst) fs = true →
      run stack (.afterEntry before) (entryTokens fs ++ rest) =
        proceed stack (.mapping (before ++ fs)) rest
  | [], before, rest, _ => by
      rw [entryTokens, List.append_nil]
      exact run_cons rfl rest
  | (k, v) :: fs, before, rest, h => by
      obtain ⟨hk, hnew, hv, hfs⟩ := areEntries_cons before h
      simp only [entryTokens, List.cons_append, List.append_assoc]
      show run stack (.colon before k.toText) _ = _
      rw [run_entry hk hnew (run_tokens (by rw [List.length_cons]; omega) v _ hv),
        run_entryTokens hroom fs (before ++ [(k, v)]) rest hfs, List.append_assoc]
      rfl

end

theorem read_line {v : Value} (hv : isDocument deepest v = true)
    (h : Token.ofChars (line v).toList = tokens v) : read (line v) = .ok v := by
  rw [read, h, ← List.append_nil (tokens v), run_tokens (by simp) v [] hv]
  rfl

end SiteTrial.Json
