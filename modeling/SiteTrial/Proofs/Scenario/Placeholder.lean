import Mathlib.Data.List.TakeWhile
import SiteTrial.Scenario.Placeholder

/-!
# Filling in test data

A value is read once, from the left. What it is read as depends on the value alone, and each placeholder in it is
replaced on its own, so that no text that was put in is ever read again.

* `IsToken`, `Begins`, `placeholder?_eq_some_iff` : a placeholder in front of some characters;
* `IsReading`, `isReading_iff` : a value as characters and placeholders, the first possible placeholder always
  taken; every value has exactly one such reading;
* `Value.Leads`, `TestData.Finds`, `lookup_eq_text_iff` : the text at the end of a dotted path;
* `Draws.after`, `TestData.Picks` : the source after some draws, and the user that a drawn number picks;
* `Piece.Becomes`, `becomes_fill`, `fillPieces_fills` : what stands in the place of a piece, and of all of them;
* `fillIn_eq_fillPieces` : a value without any opening is read in vain;
* `fillIn_fills` : the whole value.
-/

namespace SiteTrial

/-! ## Placeholders -/

/-- Word characters and points, at least one of them. -/
def IsToken (token : List Char) : Prop := token ≠ [] ∧ ∀ c ∈ token, Text.isWord c = true ∨ c = '.'

/-- A placeholder stands in front. -/
def Begins (cs : List Char) : Prop :=
  ∃ token rest, IsToken token ∧ cs = (Piece.placeholder token).written ++ rest

variable {c : Char} {cs token rest : List Char}

theorem isTokenPart_iff : isTokenPart c = true ↔ Text.isWord c = true ∨ c = '.' := by
  simp [isTokenPart]

theorem written_placeholder (token rest : List Char) :
    (Piece.placeholder token).written ++ rest = '$' :: '\x7b' :: (token ++ '\x7d' :: rest) := by
  simp [Piece.written]

/-- No token goes on behind the brace that closes a placeholder. -/
theorem placeholder?_of_isToken (h : IsToken token) (rest : List Char) :
    placeholder? ((Piece.placeholder token).written ++ rest) = some (token, rest) := by
  have hparts : ∀ c ∈ token, isTokenPart c = true := fun c hc => isTokenPart_iff.2 (h.2 c hc)
  have hclose : isTokenPart '\x7d' = false := by decide
  have htake : (token ++ '\x7d' :: rest).takeWhile isTokenPart = token := by
    rw [List.takeWhile_append_of_pos hparts, List.takeWhile_cons, hclose]
    simp
  have hdrop : (token ++ '\x7d' :: rest).dropWhile isTokenPart = '\x7d' :: rest := by
    rw [List.dropWhile_append_of_pos hparts, List.dropWhile_cons, hclose]
    simp
  rw [written_placeholder]
  unfold placeholder?
  simp [htake, hdrop, h.1]

theorem placeholder?_eq_some_iff : placeholder? cs = some (token, rest) ↔
    IsToken token ∧ cs = (Piece.placeholder token).written ++ rest := by
  constructor
  · intro h
    unfold placeholder? at h
    split at h
    · next hopen =>
        dsimp only at h
        split at h
        · next tail hclose =>
            split at h
            · cases h
            · next hsome =>
                cases h
                refine ⟨⟨by simpa using hsome, fun c hc => ?_⟩, ?_⟩
                · exact isTokenPart_iff.1 (List.mem_takeWhile_imp hc)
                · rw [written_placeholder, ← hclose, List.takeWhile_append_dropWhile]
                  exact (List.take_append_drop 2 cs).symm.trans (congrArg (· ++ cs.drop 2) hopen)
        · cases h
    · cases h
  · rintro ⟨htoken, rfl⟩
    exact placeholder?_of_isToken htoken rest

/-! ## Reading a value -/

/-- What a value is read as: its characters and placeholders in their order, where no character is left on its own
with which a placeholder begins. -/
structure IsReading (cs : List Char) (ps : List Piece) : Prop where
  written : ps.flatMap Piece.written = cs
  isToken : ∀ token, .placeholder token ∈ ps → IsToken token
  first : ∀ before c after, ps = before ++ .plain c :: after →
    ¬ Begins ((Piece.plain c :: after).flatMap Piece.written)

namespace IsReading

variable {p : Piece} {ps : List Piece}

theorem nil : IsReading [] [] := ⟨rfl, nofun, by simp⟩

/-- A reading goes on with any piece of which the one behind knows. -/
theorem cons (h : IsReading cs ps) (htoken : ∀ token, p = .placeholder token → IsToken token)
    (hfirst : ∀ c, p = .plain c → ¬ Begins (p.written ++ cs)) : IsReading (p.written ++ cs) (p :: ps) where
  written := by rw [List.flatMap_cons, h.written]
  isToken := by
    intro token hmem
    rcases List.mem_cons.1 hmem with heq | hmem
    · exact htoken token heq.symm
    · exact h.isToken token hmem
  first := by
    intro before c after heq
    cases before with
    | nil =>
        obtain ⟨rfl, rfl⟩ := List.cons.inj heq
        rw [List.flatMap_cons, h.written]
        exact hfirst c rfl
    | cons q before => exact h.first before c after (List.cons.inj heq).2

theorem tail (h : IsReading cs (p :: ps)) : IsReading (ps.flatMap Piece.written) ps where
  written := rfl
  isToken token hmem := h.isToken token (List.mem_cons_of_mem _ hmem)
  first before c after heq := h.first (p :: before) c after (congrArg (p :: ·) heq)

end IsReading

theorem pieces_of_isToken (h : IsToken token) (rest : List Char) :
    pieces ((Piece.placeholder token).written ++ rest) = .placeholder token :: pieces rest := by
  rw [pieces]
  split
  · next found =>
      rw [placeholder?_of_isToken h] at found
      cases found
      rfl
  · next found =>
      rw [placeholder?_of_isToken h] at found
      cases found

theorem pieces_of_not_begins (h : ¬ Begins (c :: cs)) : pieces (c :: cs) = .plain c :: pieces cs := by
  rw [pieces]
  split
  · next token rest found => exact absurd ⟨token, rest, placeholder?_eq_some_iff.1 found⟩ h
  · rfl

theorem pieces_nil : pieces [] = [] := by
  rw [pieces]
  split
  · next found => cases found
  · rfl

theorem isReading_pieces (cs : List Char) : IsReading cs (pieces cs) := by
  induction cs using pieces.induct with
  | case1 cs token rest found ih =>
      obtain ⟨htoken, rfl⟩ := placeholder?_eq_some_iff.1 found
      rw [pieces_of_isToken htoken]
      refine ih.cons ?_ nofun
      intro token' heq
      cases heq
      exact htoken
  | case2 _ =>
      rw [pieces_nil]
      exact .nil
  | case3 c rest none ih =>
      have hnone : ¬ Begins (c :: rest) := by
        rintro ⟨token, tail, hbegins⟩
        rw [placeholder?_eq_some_iff.2 hbegins] at none
        cases none
      rw [pieces_of_not_begins hnone]
      refine ih.cons (p := .plain c) nofun ?_
      intro _ _
      exact hnone

/-- A value can be read in one way only. -/
theorem isReading_iff {ps : List Piece} : IsReading cs ps ↔ ps = pieces cs := by
  constructor
  · intro h
    induction ps generalizing cs with
    | nil => rw [← h.written, List.flatMap_nil, pieces_nil]
    | cons p ps ih =>
        have htail := ih h.tail
        rw [← h.written, List.flatMap_cons]
        cases p with
        | placeholder token => rw [pieces_of_isToken (h.isToken token (List.mem_cons_self ..)), ← htail]
        | plain c =>
            have hfirst : ¬ Begins (c :: ps.flatMap Piece.written) := h.first [] c ps rfl
            show _ = pieces (c :: ps.flatMap Piece.written)
            rw [pieces_of_not_begins hfirst, ← htail]
  · rintro rfl
    exact isReading_pieces cs

/-! ## Paths -/

/-- A path of keys leads through mappings inside mappings to a value. -/
inductive Value.Leads : Value → List String → Value → Prop
  | here (v : Value) : Leads v [] v
  | into {v w u : Value} {key : String} {keys : List String} {fs : Fields} (hfs : v.fields? = some fs)
      (hkey : fs.get? key = some w) (h : Leads w keys u) : Leads v (key :: keys) u

/-- The keys between the points of a token lead to a text. -/
def TestData.Finds (t : TestData) (token text : List Char) : Prop :=
  ∃ keys : List (List Char), keys ≠ [] ∧ (∀ key ∈ keys, '.' ∉ key) ∧ ['.'].intercalate keys = token ∧
    (Value.mapping t.data).Leads (keys.map String.ofList) (.text (String.ofList text))

namespace TestData

variable {t : TestData}

theorem not_mem_of_mem_splitOn {α : Type} [BEq α] [LawfulBEq α] {a : α} {l key : List α}
    (h : key ∈ l.splitOn a) : a ∉ key := by
  induction l generalizing key with
  | nil =>
      rw [List.splitOn_nil, List.mem_singleton] at h
      subst h
      exact List.not_mem_nil
  | cons b l ih =>
      rw [List.splitOn_cons_eq_if_modifyHead] at h
      split at h
      · rcases List.mem_cons.1 h with rfl | h
        · exact List.not_mem_nil
        · exact ih h
      · next hne =>
          obtain ⟨first, rest, hsplit⟩ := List.exists_cons_of_ne_nil (List.splitOn_ne_nil a l)
          rw [hsplit, List.modifyHead_cons] at h
          rw [hsplit] at ih
          rcases List.mem_cons.1 h with rfl | h
          · intro hmem
            rcases List.mem_cons.1 hmem with rfl | hmem
            · simp at hne
            · exact ih (List.mem_cons_self ..) hmem
          · exact ih (List.mem_cons_of_mem _ h)

theorem descend_eq_text_iff {keys : List String} {v : Value} {s : String} :
    descend keys v = .text s ↔ v.Leads keys (.text s) := by
  induction keys generalizing v with
  | nil =>
      constructor
      · rintro rfl
        exact .here _
      · rintro ⟨⟩
        rfl
  | cons key keys ih =>
      constructor
      · intro h
        unfold descend at h
        split at h
        · next w found =>
            obtain ⟨fs, hfs, hkey⟩ := Option.bind_eq_some_iff.1 found
            exact .into hfs hkey (ih.1 h)
        · cases h
      · intro h
        cases h with
        | into hfs hkey h =>
            unfold descend
            rw [hfs, Option.bind_some, hkey]
            exact ih.2 h

theorem lookup_eq_text_iff {text : List Char} :
    t.lookup (String.ofList token) = .text (String.ofList text) ↔ t.Finds token text := by
  unfold lookup keysOf
  rw [descend_eq_text_iff, String.toList_ofList]
  constructor
  · intro h
    exact ⟨_, List.splitOn_ne_nil _ _, fun _ => not_mem_of_mem_splitOn, List.intercalate_splitOn '.', h⟩
  · rintro ⟨keys, hsome, hfree, rfl, h⟩
    rw [List.splitOn_intercalate '.' hfree hsome]
    exact h

end TestData

/-! ## What stands in the place of a piece -/

/-- The source after some more draws. -/
def Draws.after (d : Draws) (n : Nat) : Draws := { d with taken := d.taken + n }

/-- The user that a number picks out of the pool, which is gone through over and over. -/
def TestData.Picks (t : TestData) (n : Int) (user : Credentials) : Prop :=
  t.users[(n.emod t.users.length).toNat]? = some user

/-- A placeholder for the account of a user, for which one is drawn. -/
def Piece.draws (p : Piece) : Bool :=
  p = .placeholder "username".toList || p = .placeholder "password".toList

/-- What stands in the place of a piece, where the next draw gives a number. A token for an account means the user
that the number picks, whatever the test data holds under it; any other token means the text to which it leads. -/
inductive Piece.Becomes (t : TestData) (n : Int) : Piece → List Char → Prop
  | plain (c : Char) : Becomes t n (.plain c) [c]
  | username {user : Credentials} (h : t.Picks n user) :
    Becomes t n (.placeholder "username".toList) user.username.toList
  | password {user : Credentials} (h : t.Picks n user) :
    Becomes t n (.placeholder "password".toList) user.password.toList
  | found {token text : List Char} (hother : (Piece.placeholder token).draws = false)
    (h : t.Finds token text) : Becomes t n (.placeholder token) text
  | left {token : List Char} (hother : (Piece.placeholder token).draws = false)
    (h : ∀ text, ¬ t.Finds token text) : Becomes t n (.placeholder token) (Piece.placeholder token).written

theorem Draws.after_after (d : Draws) (m n : Nat) : (d.after m).after n = d.after (m + n) := by
  simp [after, Nat.add_assoc]

theorem TestData.picks_draw (t : TestData) (d : Draws) : t.Picks d.current (t.draw d) := by
  have hpos : 0 < t.users.length := Nat.succ_pos _
  have hlt : (d.current.emod t.users.length).toNat < t.users.length := by
    have := Int.emod_lt_of_pos d.current (by exact_mod_cast hpos : (0 : Int) < t.users.length)
    show (d.current % t.users.length).toNat < _
    omega
  unfold Picks draw pick Draws.below
  rw [Nat.mod_eq_of_lt hlt, List.getElem?_eq_getElem hlt]
  rfl

theorem TestData.Picks.unique {t : TestData} {n : Int} {user user' : Credentials} (h : t.Picks n user)
    (h' : t.Picks n user') : user = user' := Option.some.inj (h.symm.trans h')

variable {t : TestData} {d : Draws}

theorem ne_account (h : (Piece.placeholder token).draws = false) :
    token ≠ "username".toList ∧ token ≠ "password".toList := by
  simpa only [Piece.draws, Piece.placeholder.injEq, Bool.or_eq_false_iff, decide_eq_false_iff_not] using h

theorem fill_found {text : List Char} (hother : (Piece.placeholder token).draws = false)
    (h : t.Finds token text) : (Piece.placeholder token).fill t d = ⟨text, d, []⟩ := by
  obtain ⟨husername, hpassword⟩ := ne_account hother
  rw [Piece.fill, if_neg husername, if_neg hpassword, TestData.lookup_eq_text_iff.2 h]
  simp

theorem fill_left (hother : (Piece.placeholder token).draws = false) (h : ∀ text, ¬ t.Finds token text) :
    (Piece.placeholder token).fill t d =
      ⟨(Piece.placeholder token).written, d, [(Piece.placeholder token).written]⟩ := by
  obtain ⟨husername, hpassword⟩ := ne_account hother
  rw [Piece.fill, if_neg husername, if_neg hpassword]
  split
  · next s hs =>
      rw [← String.ofList_toList (s := s)] at hs
      exact absurd (TestData.lookup_eq_text_iff.1 hs) (h _)
  · rfl

/-- What is made of one piece, and how many draws that takes. -/
theorem becomes_fill (t : TestData) (d : Draws) (p : Piece) :
    p.Becomes t d.current (p.fill t d).text ∧ (p.fill t d).draws = d.after p.draws.toNat := by
  cases p with
  | plain c => exact ⟨.plain c, rfl⟩
  | placeholder token =>
      by_cases husername : token = "username".toList
      · subst husername
        rw [Piece.fill, if_pos rfl]
        exact ⟨.username (t.picks_draw d), rfl⟩
      by_cases hpassword : token = "password".toList
      · subst hpassword
        rw [Piece.fill, if_neg husername, if_pos rfl]
        exact ⟨.password (t.picks_draw d), rfl⟩
      have hother : (Piece.placeholder token).draws = false := by
        simp only [Piece.draws, Piece.placeholder.injEq, husername, hpassword, decide_false, Bool.or_self]
      rw [hother]
      by_cases hfinds : ∃ text, t.Finds token text
      · obtain ⟨text, htext⟩ := hfinds
        rw [fill_found hother htext]
        exact ⟨.found hother htext, rfl⟩
      · have hnone := not_exists.1 hfinds
        rw [fill_left hother hnone]
        exact ⟨.left hother hnone, rfl⟩

/-- A piece can become nothing else. -/
theorem becomes_iff {p : Piece} {text : List Char} :
    p.Becomes t d.current text ↔ text = (p.fill t d).text := by
  constructor
  · intro h
    cases h with
    | plain c => rfl
    | username h =>
        rw [h.unique (t.picks_draw d), Piece.fill, if_pos rfl]
    | password h =>
        rw [h.unique (t.picks_draw d), Piece.fill, if_neg (by decide), if_pos rfl]
    | found hother h => rw [fill_found hother h]
    | left hother h => rw [fill_left hother h]
  · rintro rfl
    exact (becomes_fill t d p).1

/-- What is made of pieces one after another: each becomes what it would become alone, where as many draws lie
behind as there are placeholders before it that draw a user. -/
theorem fillPieces_fills (t : TestData) (d : Draws) (ps : List Piece) :
    (fillPieces t d ps).draws = d.after (ps.countP Piece.draws) ∧
      ∃ texts : List (List Char), (fillPieces t d ps).text = texts.flatten ∧ texts.length = ps.length ∧
        ∀ (i : Nat) (p : Piece), ps[i]? = some p → ∀ text : List Char, texts[i]? = some text ↔
          p.Becomes t (d.after ((ps.take i).countP Piece.draws)).current text := by
  induction ps generalizing d with
  | nil => exact ⟨rfl, [], rfl, rfl, nofun⟩
  | cons p ps ih =>
      obtain ⟨-, hdraws⟩ := becomes_fill t d p
      obtain ⟨hrest, texts, htext, hlength, hall⟩ := ih (p.fill t d).draws
      rw [hdraws] at hrest hall
      refine ⟨?_, (p.fill t d).text :: texts, ?_, congrArg Nat.succ hlength, ?_⟩
      · show (fillPieces t (p.fill t d).draws ps).draws = _
        rw [hdraws, hrest, Draws.after_after, List.countP_cons]
        cases p.draws <;> simp [Nat.add_comm]
      · show (p.fill t d).text ++ (fillPieces t (p.fill t d).draws ps).text = _
        rw [htext, List.flatten_cons]
      · intro i q hq text
        cases i with
        | zero =>
            cases hq
            exact Option.some_inj.trans (eq_comm.trans becomes_iff.symm)
        | succ i =>
            have hq' := hall i q hq text
            rw [Draws.after_after] at hq'
            rw [List.take_succ_cons, List.countP_cons]
            cases hp : p.draws with
            | false => simpa [hp] using hq'
            | true => simpa [hp, Nat.add_comm] using hq'

/-! ## The whole value -/

/-- Where no placeholder begins there is nothing but characters, each of which stays. -/
theorem fillPieces_of_unmarked (h : hasOpening cs = false) :
    fillPieces t d (pieces cs) = ⟨cs, d, []⟩ := by
  induction cs with
  | nil =>
      rw [pieces_nil]
      rfl
  | cons c cs ih =>
      have hbegins : ¬ Begins (c :: cs) := by
        rintro ⟨token, rest, -, heq⟩
        rw [written_placeholder] at heq
        rw [heq] at h
        cases h
      have hcs : hasOpening cs = false := by
        unfold hasOpening at h
        split at h <;> simp_all
      have hrest := ih hcs
      rw [pieces_of_not_begins hbegins]
      unfold fillPieces Piece.fill
      simp only [hrest]
      rfl

/-- To leave a value alone in which nothing could begin is the same as to read it. -/
theorem fillIn_eq_fillPieces (t : TestData) (d : Draws) (value : String) :
    fillIn t d value = fillPieces t d (pieces value.toList) := by
  unfold fillIn
  split
  · rfl
  · next h => rw [fillPieces_of_unmarked (by simpa using h)]

/-- A value is read in the only way in which it can be read, and its pieces are replaced one by one: characters and
placeholders that lead to no text stay, and each placeholder for the account of a user takes one draw, in their
order. To leave a value alone in which no placeholder begins comes to the same. -/
theorem fillIn_fills (t : TestData) (d : Draws) (value : String) :
    ∃ ps : List Piece, (∀ qs, IsReading value.toList qs ↔ qs = ps) ∧
      (∃ texts : List (List Char), (fillIn t d value).text = texts.flatten ∧ texts.length = ps.length ∧
        ∀ (i : Nat) (p : Piece), ps[i]? = some p → ∀ text : List Char, texts[i]? = some text ↔
          p.Becomes t (d.number (d.taken + (ps.take i).countP Piece.draws)) text) ∧
      (fillIn t d value).draws = { d with taken := d.taken + ps.countP Piece.draws } ∧
      fillIn t d value = fillPieces t d ps := by
  obtain ⟨hdraws, htexts⟩ := fillPieces_fills t d (pieces value.toList)
  have hgeneral := fillIn_eq_fillPieces t d value
  refine ⟨pieces value.toList, fun qs => isReading_iff, ?_, ?_, hgeneral⟩
  · rw [hgeneral]
    exact htexts
  · rw [hgeneral]
    exact hdraws

namespace TestData

/-- A pool of two users, a text that looks like a placeholder, and one under a key that no token can mean. -/
def trickyData : TestData where
  data := [(.text "username", .text "nobody"),
    (.text "form", .record [("title", .text "$\x7bpassword\x7d")])]
  firstUser := ⟨"ada", "1815", ""⟩
  otherUsers := [⟨"alan", "1912", ""⟩]

/-- Placeholders for both, one that leads nowhere, and one that is not closed. -/
def trickyValue : String := "$\x7busername\x7d: $\x7bform.title\x7d$\x7btopic\x7d $\x7busername"

theorem fillIn_fills_tricky :
    ∃ ps : List Piece, ∃ texts : List (List Char), IsReading trickyValue.toList ps ∧
      (fillIn trickyData (.cycle [3]) trickyValue).text = texts.flatten ∧
      ps[0]? = some (.placeholder "username".toList) ∧ texts[0]? = some "alan".toList ∧
      ps[3]? = some (.placeholder "form.title".toList) ∧
      texts[3]? = some "$\x7bpassword\x7d".toList ∧
      (fillIn trickyData (.cycle [3]) trickyValue).draws.taken = 1 := by
  obtain ⟨ps, hreading, ⟨texts, htext, hlength, hall⟩, hdraws, -⟩ :=
    fillIn_fills trickyData (.cycle [3]) trickyValue
  have hnumber : ∀ n, (Draws.cycle [3]).number n = 3 := by
    intro n
    simp [Draws.cycle, Nat.mod_one]
  simp only [hnumber] at hall
  have hps : pieces trickyValue.toList = ps := (hreading _).1 (isReading_pieces _)
  have hfirst : ps[0]? = some (.placeholder "username".toList) := by
    rw [← hps]
    decide +kernel
  have htitle : ps[3]? = some (.placeholder "form.title".toList) := by
    rw [← hps]
    decide +kernel
  have hcount : ps.countP Piece.draws = 1 := by
    rw [← hps]
    decide +kernel
  have hfinds : trickyData.Finds "form.title".toList "$\x7bpassword\x7d".toList :=
    ⟨["form".toList, "title".toList], by decide, by decide, by decide,
      .into rfl rfl (.into rfl rfl (.here _))⟩
  refine ⟨ps, texts, (hreading ps).2 rfl, htext, hfirst, (hall 0 _ hfirst _).2 ?_, htitle,
    (hall 3 _ htitle _).2 (.found (by decide) hfinds), ?_⟩
  · exact @Piece.Becomes.username trickyData 3 ⟨"alan", "1912", ""⟩ rfl
  · rw [hdraws, hcount]
    rfl

end TestData

end SiteTrial
