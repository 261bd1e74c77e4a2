import Mathlib.Data.List.Induction
import SiteTrial.Action.Registries

/-!
# Two spellings of one action

The name of an action is a row of words joined by hyphens, and may also be spelled with a capital for each hyphen.
Both spellings are kept under the one with hyphens, so that it does not matter which of them is registered and which
is looked up.

* `ActionName`, `ActionName.kebab`, `ActionName.camel` : a name and its two spellings;
* `Registry.normalize_kebab`, `Registry.normalize_camel` : what they are kept under;
* `Registry.get?_ofList` : the handler that was registered last counts;
* `Registries.history`, `Registries.named_after` : the registrations that made a registry what it is, those before it
  was copied among them;
* `Registries.get?_spelling` : what is found under the spellings of a name; `Registry.get?_login` : other texts that
  are kept under it.
-/

namespace SiteTrial

/-! ## Names -/

/-- A word of a name: a small letter, with small letters and digits behind it. -/
structure NameWord where
  initial : Char
  rest : List Char
  isLower : initial.isLower = true
  isPlain : (rest.all fun c => c.isLower || c.isDigit) = true

namespace NameWord

def chars (w : NameWord) : List Char := w.initial :: w.rest

def capitalized (w : NameWord) : List Char := w.initial.toUpper :: w.rest

theorem plain (w : NameWord) : ∀ c ∈ w.rest, c.isLower = true ∨ c.isDigit = true :=
  fun c hc => Bool.or_eq_true_iff.1 (List.all_eq_true.1 w.isPlain c hc)

end NameWord

/-- The name of an action: words, of which there is at least one. -/
structure ActionName where
  first : NameWord
  others : List NameWord

namespace ActionName

/-- The words joined by hyphens. -/
def kebab (n : ActionName) : String :=
  String.ofList (n.first.chars ++ n.others.flatMap fun w => '-' :: w.chars)

/-- The words joined by their capitals. -/
def camel (n : ActionName) : String :=
  String.ofList (n.first.chars ++ n.others.flatMap NameWord.capitalized)

def spellings (n : ActionName) : List String := [n.kebab, n.camel]

end ActionName

/-! ## Characters -/

/-- What holds of the first 128 characters, one by one, holds of all of them. -/
theorem forall_ascii {p : Char → Prop} (h : ∀ n < 128, p (Char.ofNat n)) {c : Char} (hc : c.toNat < 128) : p c := by
  have hp := h c.toNat hc
  rwa [Char.ofNat_toNat] at hp

theorem toNat_lt_of_isLower {c : Char} (h : c.isLower = true) : c.toNat < 128 := by
  have hle : c.val ≤ 'z'.val := of_decide_eq_true (Bool.and_eq_true_iff.1 h).2
  exact Nat.lt_of_le_of_lt (UInt32.le_iff_toNat_le.1 hle) (by decide)

theorem toNat_lt_of_isDigit {c : Char} (h : c.isDigit = true) : c.toNat < 128 := by
  have hle : c.val ≤ '9'.val := of_decide_eq_true (Bool.and_eq_true_iff.1 h).2
  exact Nat.lt_of_le_of_lt (UInt32.le_iff_toNat_le.1 hle) (by decide)

/-- A character of a name in small letters. -/
structure IsSmall (c : Char) : Prop where
  ascii : c.toNat < 128
  solid : Text.isBlank c = false
  lower : c.toLower = c
  plain : c.isUpper = false

/-- The capital of such a character. -/
structure IsCapital (c small : Char) : Prop where
  ascii : c.toNat < 128
  solid : Text.isBlank c = false
  lower : c.toLower = small
  upper : c.isUpper = true

theorem isSmall_of_plain {c : Char} (h : c.isLower = true ∨ c.isDigit = true) : IsSmall c := by
  have hall : ∀ n < 128, (Char.ofNat n).isLower = true ∨ (Char.ofNat n).isDigit = true →
      Text.isBlank (Char.ofNat n) = false ∧ (Char.ofNat n).toLower = Char.ofNat n ∧
        (Char.ofNat n).isUpper = false := by
    decide
  have hascii : c.toNat < 128 := h.elim toNat_lt_of_isLower toNat_lt_of_isDigit
  obtain ⟨hsolid, hlower, hplain⟩ := forall_ascii (p := fun c => c.isLower = true ∨ c.isDigit = true →
    Text.isBlank c = false ∧ c.toLower = c ∧ c.isUpper = false) hall hascii h
  exact ⟨hascii, hsolid, hlower, hplain⟩

theorem map_toLower_of_small {cs : List Char} (h : ∀ c ∈ cs, IsSmall c) : cs.map Char.toLower = cs :=
  List.map_congr_left (fun c hc => (h c hc).lower) |>.trans (List.map_id cs)

theorem isSmall_hyphen : IsSmall '-' := ⟨by decide, by decide, by decide, by decide⟩

theorem isCapital_toUpper {c : Char} (h : c.isLower = true) : IsCapital c.toUpper c := by
  have hall : ∀ n < 128, (Char.ofNat n).isLower = true → (Char.ofNat n).toUpper.toNat < 128 ∧
      Text.isBlank (Char.ofNat n).toUpper = false ∧ (Char.ofNat n).toUpper.toLower = Char.ofNat n ∧
        (Char.ofNat n).toUpper.isUpper = true := by
    decide
  obtain ⟨hascii, hsolid, hlower, hupper⟩ := forall_ascii (p := fun c => c.isLower = true →
    c.toUpper.toNat < 128 ∧ Text.isBlank c.toUpper = false ∧ c.toUpper.toLower = c ∧
      c.toUpper.isUpper = true) hall (toNat_lt_of_isLower h) h
  exact ⟨hascii, hsolid, hlower, hupper⟩

namespace Text

theorem trimWhere_eq_self {isOuter : Char → Bool} {cs : List Char} (h : ∀ c ∈ cs, isOuter c = false) :
    trimWhere isOuter cs = cs := by
  have hdrop {ds : List Char} (hds : ∀ c ∈ ds, isOuter c = false) : ds.dropWhile isOuter = ds := by
    cases ds with
    | nil => rfl
    | cons d ds => exact List.dropWhile_cons_of_neg (by simp [hds d (List.mem_cons_self ..)])
  rw [trimWhere, hdrop h, hdrop fun c hc => h c (List.mem_reverse.1 hc), List.reverse_reverse]

theorem lowerChars_of_ascii {cs : List Char} (before : List Char) (h : ∀ c ∈ cs, c.toNat < 128) :
    lowerChars before cs = cs.map Char.toLower := by
  induction cs generalizing before with
  | nil => rfl
  | cons c cs ih =>
      obtain ⟨hc, hcs⟩ := List.forall_mem_cons.1 h
      have hsigma : c ≠ '\u03a3' := by
        rintro rfl
        exact absurd hc (by decide)
      rw [lowerChars, if_neg hsigma, lowerChar, if_pos hc, ih _ hcs, List.map_cons, List.singleton_append]

end Text

/-! ## What a name is kept under -/

namespace Registry

theorem hyphenate_append (cs ds : List Char) : hyphenate (cs ++ ds) = hyphenate cs ++ hyphenate ds := by
  induction cs with
  | nil => rfl
  | cons c cs ih =>
      rw [List.cons_append, hyphenate, hyphenate, ih]
      split <;> rfl

theorem hyphenate_of_small {cs : List Char} (h : ∀ c ∈ cs, IsSmall c) : hyphenate cs = cs := by
  induction cs with
  | nil => rfl
  | cons c cs ih =>
      obtain ⟨hc, hcs⟩ := List.forall_mem_cons.1 h
      rw [hyphenate, if_neg (Bool.eq_false_iff.1 hc.plain), ih hcs]

/-- A text of the first 128 characters without blanks gets its hyphens and loses its capitals. -/
theorem normalize_ofList {cs : List Char} (hascii : ∀ c ∈ hyphenateRest cs, c.toNat < 128)
    (hsolid : ∀ c ∈ cs, Text.isBlank c = false) :
    normalize (String.ofList cs) = String.ofList ((hyphenateRest cs).map Char.toLower) := by
  rw [normalize, String.toList_ofList, Text.trimChars, Text.trimWhere_eq_self hsolid, Text.lower,
    String.toList_ofList, Text.lowerChars_of_ascii [] hascii]

end Registry

namespace NameWord

theorem isSmall_of_mem {w : NameWord} : ∀ c ∈ w.chars, IsSmall c :=
  List.forall_mem_cons.2 ⟨isSmall_of_plain (.inl w.isLower), fun c hc => isSmall_of_plain (w.plain c hc)⟩

theorem hyphenate_capitalized (w : NameWord) : Registry.hyphenate w.capitalized = '-' :: w.capitalized := by
  have hrest : ∀ c ∈ w.rest, IsSmall c := fun c hc => isSmall_of_plain (w.plain c hc)
  rw [capitalized, Registry.hyphenate, if_pos (isCapital_toUpper w.isLower).upper,
    Registry.hyphenate_of_small hrest]

theorem map_toLower_capitalized (w : NameWord) : w.capitalized.map Char.toLower = w.chars := by
  have hrest : ∀ c ∈ w.rest, IsSmall c := fun c hc => isSmall_of_plain (w.plain c hc)
  rw [capitalized, List.map_cons, (isCapital_toUpper w.isLower).lower, map_toLower_of_small hrest, chars]

end NameWord

namespace ActionName

variable (n : ActionName)

theorem isSmall_of_mem : ∀ c ∈ n.first.chars ++ n.others.flatMap fun w => '-' :: w.chars, IsSmall c := by
  refine List.forall_mem_append.2 ⟨NameWord.isSmall_of_mem, fun c hc => ?_⟩
  obtain ⟨w, -, hc⟩ := List.mem_flatMap.1 hc
  exact List.forall_mem_cons.2 ⟨isSmall_hyphen, NameWord.isSmall_of_mem⟩ c hc

end ActionName

namespace Registry

theorem hyphenate_capitals (ws : List NameWord) :
    hyphenate (ws.flatMap NameWord.capitalized) = ws.flatMap fun w => '-' :: w.capitalized := by
  induction ws with
  | nil => rfl
  | cons w ws ih => rw [List.flatMap_cons, hyphenate_append, w.hyphenate_capitalized, ih, List.flatMap_cons]

theorem map_toLower_capitals (ws : List NameWord) :
    (ws.flatMap fun w => '-' :: w.capitalized).map Char.toLower = ws.flatMap fun w => '-' :: w.chars := by
  rw [List.map_flatMap]
  refine congrArg (ws.flatMap ·) (funext fun w => ?_)
  rw [List.map_cons, w.map_toLower_capitalized, isSmall_hyphen.lower]

theorem normalize_kebab (n : ActionName) : normalize n.kebab = n.kebab := by
  have hsmall := n.isSmall_of_mem
  have hsame : hyphenateRest (n.first.chars ++ n.others.flatMap fun w => '-' :: w.chars) =
      n.first.chars ++ n.others.flatMap fun w => '-' :: w.chars :=
    congrArg (n.first.initial :: ·) (hyphenate_of_small fun c hc => hsmall c (List.mem_cons_of_mem _ hc))
  rw [ActionName.kebab, normalize_ofList (by rw [hsame]; exact fun c hc => (hsmall c hc).ascii)
    fun c hc => (hsmall c hc).solid, hsame, map_toLower_of_small hsmall]

theorem normalize_camel (n : ActionName) : normalize n.camel = n.kebab := by
  have hfirst : ∀ c ∈ n.first.chars, IsSmall c := NameWord.isSmall_of_mem
  have hcapitals : ∀ w : NameWord, ∀ c ∈ w.capitalized, c.toNat < 128 ∧ Text.isBlank c = false := by
    intro w
    have hcapital := isCapital_toUpper w.isLower
    refine List.forall_mem_cons.2 ⟨⟨hcapital.ascii, hcapital.solid⟩, fun c hc => ?_⟩
    have hsmall := isSmall_of_plain (w.plain c hc)
    exact ⟨hsmall.ascii, hsmall.solid⟩
  have hyphenated : hyphenateRest (n.first.chars ++ n.others.flatMap NameWord.capitalized) =
      n.first.chars ++ n.others.flatMap fun w => '-' :: w.capitalized := by
    show n.first.initial :: hyphenate (n.first.rest ++ _) = n.first.initial :: (n.first.rest ++ _)
    rw [hyphenate_append, hyphenate_of_small fun c hc => hfirst c (List.mem_cons_of_mem _ hc), hyphenate_capitals]
  rw [ActionName.camel, normalize_ofList, hyphenated, List.map_append, map_toLower_capitals,
    map_toLower_of_small hfirst, ActionName.kebab]
  · rw [hyphenated]
    refine List.forall_mem_append.2 ⟨fun c hc => (hfirst c hc).ascii, fun c hc => ?_⟩
    obtain ⟨w, -, hc⟩ := List.mem_flatMap.1 hc
    rcases List.mem_cons.1 hc with rfl | hc
    · exact isSmall_hyphen.ascii
    · exact (hcapitals w c hc).1
  · refine List.forall_mem_append.2 ⟨fun c hc => (hfirst c hc).solid, fun c hc => ?_⟩
    obtain ⟨w, -, hc⟩ := List.mem_flatMap.1 hc
    exact (hcapitals w c hc).2

end Registry

/-! ## One spelling from the other -/

/-- A capital for each hyphen. -/
def joinCapitals : List Char → List Char
  | '-' :: c :: cs => c.toUpper :: joinCapitals cs
  | c :: cs => c :: joinCapitals cs
  | [] => []

theorem joinCapitals_append {cs : List Char} (h : ∀ c ∈ cs, c.isLower = true ∨ c.isDigit = true)
    (ds : List Char) : joinCapitals (cs ++ ds) = cs ++ joinCapitals ds := by
  induction cs with
  | nil => rfl
  | cons c cs ih =>
      obtain ⟨hc, hcs⟩ := List.forall_mem_cons.1 h
      have hhyphen : c ≠ '-' := by
        rintro rfl
        exact absurd hc (by decide)
      rw [List.cons_append, joinCapitals, ih hcs, List.cons_append]
      exact fun d ds h _ => hhyphen h

namespace ActionName

theorem joinCapitals_words (ws : List NameWord) :
    joinCapitals (ws.flatMap fun w => '-' :: w.chars) = ws.flatMap NameWord.capitalized := by
  induction ws with
  | nil => rfl
  | cons w ws ih =>
      show joinCapitals ('-' :: w.initial :: (w.rest ++ ws.flatMap fun w => '-' :: w.chars)) = _
      rw [joinCapitals, joinCapitals_append w.plain, ih, List.flatMap_cons, NameWord.capitalized, List.cons_append]

theorem camel_eq (n : ActionName) : n.camel = String.ofList (joinCapitals n.kebab.toList) := by
  have hfirst : ∀ c ∈ n.first.chars, c.isLower = true ∨ c.isDigit = true :=
    List.forall_mem_cons.2 ⟨.inl n.first.isLower, n.first.plain⟩
  rw [kebab, String.toList_ofList, joinCapitals_append hfirst, joinCapitals_words, camel]

theorem spellings_eq {m n : ActionName} (h : m.kebab = n.kebab) : m.spellings = n.spellings := by
  rw [spellings, spellings, camel_eq, camel_eq, h]

theorem normalize_spelling {n : ActionName} {s : String} (h : s ∈ n.spellings) : Registry.normalize s = n.kebab := by
  simp only [spellings, List.mem_cons, List.not_mem_nil, or_false] at h
  rcases h with rfl | rfl
  · exact Registry.normalize_kebab n
  · exact Registry.normalize_camel n

/-- A spelling of some name is kept under another name only if it is a spelling of this one. -/
theorem normalize_eq_iff {m n : ActionName} {s : String} (h : s ∈ m.spellings) :
    Registry.normalize s = n.kebab ↔ s ∈ n.spellings := by
  constructor
  · intro hs
    rw [normalize_spelling h] at hs
    rwa [← spellings_eq hs]
  · exact normalize_spelling

end ActionName

/-! ## What is found -/

section Found

variable {α : Type}

/-- The handler of the last registration of some kind. -/
def Registry.last? (registrations : List (String × α)) (p : String → Prop) [DecidablePred p] : Option α :=
  (registrations.filter fun e => p e.1).getLast?.map Prod.snd

theorem Registry.get?_register (r : Registry α) (action name : String) (handler : α) :
    (r.register action handler).get? name =
      if normalize name = normalize action then some handler else r.get? name := Table.get?_put ..

theorem Registry.ofList_concat (registrations : List (String × α)) (action : String) (handler : α) :
    ofList (registrations ++ [(action, handler)]) = (ofList registrations).register action handler :=
  List.foldl_append

theorem Registry.get?_ofList (registrations : List (String × α)) (name : String) :
    (ofList registrations).get? name = last? registrations fun s => normalize s = normalize name := by
  induction registrations using List.reverseRecOn with
  | nil => rfl
  | append_singleton registrations e ih =>
      obtain ⟨action, handler⟩ := e
      rw [ofList_concat, get?_register, ih, last?, last?, List.filter_append]
      by_cases hname : normalize action = normalize name
      · rw [if_pos hname.symm, List.filter_cons_of_pos (by simpa using hname), List.filter_nil,
          List.getLast?_concat, Option.map_some]
      · rw [if_neg (Ne.symm hname), List.filter_cons_of_neg (by simpa using hname), List.filter_nil,
          List.append_nil]

namespace Registries

/-- The registrations of each registry after one more change; a copy has those of the registry that was copied. -/
def extend (registrations : String → List (String × α)) : Change α → String → List (String × α)
  | .register registry action handler =>
    Function.update registrations registry (registrations registry ++ [(action, handler)])
  | .copy registry clone => Function.update registrations clone (registrations registry)

/-- The registrations that made each registry what it is. -/
def history (changes : List (Change α)) : String → List (String × α) := changes.foldl extend fun _ => []

theorem named_put (rs : Registries α) (registry name : String) (r : Registry α) :
    named (Table.put rs registry r) name = if name = registry then r else named rs name := by
  rw [named, Table.get?_put]
  split <;> rfl

/-- A change to one registry leaves the others alone, those that were copied from it among them. -/
theorem named_change {rs : Registries α} {registrations : String → List (String × α)}
    (h : ∀ name, named rs name = .ofList (registrations name)) (c : Change α) (name : String) :
    named (change rs c) name = .ofList (extend registrations c name) := by
  cases c with
  | register registry action handler =>
      rw [change, register, named_put, extend, Function.update_apply]
      split
      · rw [h, Registry.ofList_concat]
      · exact h name
  | copy registry clone =>
      rw [change, copy, named_put, extend, Function.update_apply]
      split
      · exact h registry
      · exact h name

theorem named_after (changes : List (Change α)) (name : String) :
    named (after changes) name = .ofList (history changes name) := by
  have hall : ∀ name, named (after changes) name = .ofList (history changes name) := by
    induction changes using List.reverseRecOn with
    | nil => exact fun _ => rfl
    | append_singleton changes c ih =>
        rw [after, history, List.foldl_append, List.foldl_append]
        exact named_change ih c
  exact hall name

/-- Under both spellings of a name a registry finds the handler of the last registration under a text that is kept
under this name, be it that it was made before the registry was copied from another one. If all registrations are
under spellings of names, this is the last one under a spelling of this name. A registration under a spelling of
another name changes nothing about what is found under this one. -/
theorem get?_spelling (changes : List (Change α)) (registry : String) (n : ActionName) :
    (∀ s ∈ n.spellings, (named (after changes) registry).get? s =
      Registry.last? (history changes registry) fun t => Registry.normalize t = n.kebab) ∧
    ((∀ e ∈ history changes registry, ∃ m : ActionName, e.1 ∈ m.spellings) →
      ∀ s ∈ n.spellings, (named (after changes) registry).get? s =
        Registry.last? (history changes registry) fun t => t ∈ n.spellings) ∧
    ∀ m : ActionName, m.kebab ≠ n.kebab → ∀ t ∈ m.spellings, ∀ s ∈ n.spellings, ∀ handler,
      ((named (after changes) registry).register t handler).get? s = (named (after changes) registry).get? s := by
  have hfound : ∀ s ∈ n.spellings, (named (after changes) registry).get? s =
      Registry.last? (history changes registry) fun t => Registry.normalize t = n.kebab := by
    intro s hs
    rw [named_after, Registry.get?_ofList, ActionName.normalize_spelling hs]
  refine ⟨hfound, fun hspelled s hs => ?_, fun m hne t ht s hs handler => ?_⟩
  · have hsame : (history changes registry).filter (fun e => Registry.normalize e.1 = n.kebab) =
        (history changes registry).filter fun e => e.1 ∈ n.spellings := by
      refine List.filter_congr fun e he => ?_
      obtain ⟨m, hm⟩ := hspelled e he
      exact decide_eq_decide.2 (ActionName.normalize_eq_iff hm)
    rw [hfound s hs, Registry.last?, Registry.last?, hsame]
  · rw [Registry.get?_register, ActionName.normalize_spelling hs, ActionName.normalize_spelling ht,
      if_neg (Ne.symm hne)]

/-- The name of an action that reads a clock. -/
def readClock : ActionName where
  first := ⟨'r', "ead".toList, by decide, by decide⟩
  others := [⟨'c', "lock2".toList, by decide, by decide⟩]

/-- A copy finds what was registered before it was made, under the other spelling too, and goes its own way then. -/
theorem get?_spelling_readClock :
    let changes : List (Change Nat) := [.register "main" "read-clock2" 1, .copy "main" "own",
      .register "own" "readClock2" 2]
    readClock.spellings = ["read-clock2", "readClock2"] ∧
      (∀ s ∈ readClock.spellings, (named (after changes) "main").get? s = some 1) ∧
      ∀ s ∈ readClock.spellings, (named (after changes) "own").get? s = some 2 := by
  intro changes
  have hspellings : readClock.spellings = ["read-clock2", "readClock2"] := by decide
  have hspelled (registry : String) (hhistory : ∀ e ∈ history changes registry, e.1 ∈ readClock.spellings) :
      ∀ s ∈ readClock.spellings, (named (after changes) registry).get? s =
        Registry.last? (history changes registry) fun t => t ∈ readClock.spellings :=
    (get?_spelling changes registry readClock).2.1 fun e he => ⟨readClock, hhistory e he⟩
  exact ⟨hspellings, hspelled "main" (by decide), hspelled "own" (by decide)⟩

end Registries

/-- What is registered under a text that is no spelling of a name may be found under the name all the same. -/
theorem Registry.get?_login :
    ∃ n : ActionName, n.kebab = "login" ∧ "Login" ∉ n.spellings ∧
      (({} : Registry Nat).register "Login" 1).get? "login" = some 1 :=
  ⟨⟨⟨'l', "ogin".toList, by decide, by decide⟩, []⟩, by decide, by decide, by decide⟩

end Found

end SiteTrial
