import SiteTrial.Sample.File
import SiteTrial.Proofs.Json.Line
import SiteTrial.Proofs.Sample.Record
import SiteTrial.Proofs.Told

/-!
# Reading what was written

A file of samples, one written behind the other, is read as the samples that were written, in their
order and without a notice, as long as nothing is lost where one record is written and read.

* `Text.lines_join` : lines that were put one behind the other are found again;
* `Sample.IsKept` : a plain sample whose record is not lost in writing;
* `readLine_line`, `outcome_readSamples` : one line, and a whole file.
-/

namespace SiteTrial

/-! ## Lines -/

namespace Text

/-- Characters without an end of a line. -/
def IsOneLine (cs : List Char) : Prop := '\n' ∉ cs ∧ '\r' ∉ cs

theorem isOneLine_of_printable {cs : List Char} (h : Printable cs) : IsOneLine cs :=
  ⟨fun hmem => absurd (h _ hmem).1 (by decide), fun hmem => absurd (h _ hmem).1 (by decide)⟩

/-- Where no carriage return stands, line ends are what they should be. -/
theorem unifyChars_eq_self {cs : List Char} (h : '\r' ∉ cs) : unifyChars cs = cs := by
  fun_induction unifyChars cs with
  | case1 cs ih => simp at h
  | case2 cs _ ih => simp at h
  | case3 c cs _ _ ih => rw [ih fun hmem => h (List.mem_cons_of_mem _ hmem)]
  | case4 => rfl

theorem splitLines_line {line : List Char} (h : '\n' ∉ line) (gathered rest : List Char) :
    splitLines gathered (line ++ '\n' :: rest) = (gathered.reverse ++ line) :: splitLines [] rest := by
  induction line generalizing gathered with
  | nil =>
      rw [List.nil_append, splitLines, List.append_nil]
  | cons c line ih =>
      have hc : c ≠ '\n' := fun hc => h (hc ▸ List.mem_cons_self ..)
      rw [List.cons_append, splitLines, ih fun hmem => h (List.mem_cons_of_mem _ hmem),
        List.reverse_cons, List.append_assoc, List.singleton_append]
      exact hc

/-- Lines that were put one behind the other are found again. -/
theorem splitLines_flatMap {ls : List (List Char)} (h : ∀ l ∈ ls, IsOneLine l) :
    splitLines [] (ls.flatMap (· ++ ['\n'])) = ls := by
  induction ls with
  | nil => rfl
  | cons l ls ih =>
      rw [List.flatMap_cons, List.append_assoc, List.singleton_append,
        splitLines_line (h l (List.mem_cons_self ..)).1, ih fun m hm => h m (List.mem_cons_of_mem _ hm)]
      rfl

theorem lines_join {ls : List String} (h : ∀ l ∈ ls, IsOneLine l.toList) :
    lines (String.join (ls.map (· ++ "\n"))) = ls.map String.toList := by
  have hjoin : (String.join (ls.map (· ++ "\n"))).toList =
      (ls.map String.toList).flatMap (· ++ ['\n']) := by
    rw [String.toList_join, List.flatMap_map, List.flatMap_map]
    exact List.flatMap_congr fun l _ => String.toList_append
  have hlines : ∀ l ∈ ls.map String.toList, IsOneLine l := by
    intro l hl
    obtain ⟨s, hs, rfl⟩ := List.mem_map.1 hl
    exact h s hs
  have hreturn : '\r' ∉ (ls.map String.toList).flatMap (· ++ ['\n']) := by
    intro hmem
    obtain ⟨l, hl, hmem⟩ := List.mem_flatMap.1 hmem
    rcases List.mem_append.1 hmem with hmem | hmem
    · exact (hlines l hl).2 hmem
    · exact absurd (List.mem_singleton.1 hmem) (by decide)
  rw [lines, hjoin, unifyChars_eq_self hreturn, splitLines_flatMap hlines]

/-- Nothing is trimmed of characters that are not blank at either end. -/
theorem trimChars_eq_self {first last : Char} {inner : List Char} (hfirst : isBlank first = false)
    (hlast : isBlank last = false) :
    trimChars (first :: inner ++ [last]) = first :: inner ++ [last] := by
  rw [trimChars, trimWhere, List.cons_append, List.dropWhile_cons_of_neg (by simp [hfirst]),
    ← List.cons_append, List.reverse_append, List.reverse_singleton, List.singleton_append,
    List.dropWhile_cons_of_neg (by simp [hlast]), List.reverse_cons, List.reverse_reverse]

end Text

/-! ## Records -/

structure Sample.IsKept (s : Sample) : Prop where
  plain : s.IsPlain
  written : Json.read (Json.line s.toValue) = .ok s.toValue

/-- The line of such a sample holds the sample. -/
theorem readLine_line {s : Sample} (h : s.IsKept) :
    readLine (Json.line s.toValue).toList = .sample s := by
  obtain ⟨inner, hinner⟩ : ∃ inner, (Json.line s.toValue).toList = '\x7b' :: inner ++ ['\x7d'] :=
    Json.exists_line_mapping _
  have htrimmed : Text.trimChars (Json.line s.toValue).toList = (Json.line s.toValue).toList := by
    rw [hinner]
    exact Text.trimChars_eq_self (by decide) (by decide)
  have hsome : (Json.line s.toValue).toList.isEmpty = false := by
    rw [hinner]
    rfl
  simp only [readLine, htrimmed, hsome, String.ofList_toList, h.written,
    Sample.ofValue_toValue h.plain]
  rfl

/-- The lines of such samples hold the samples, and nothing is to be said about them. -/
theorem outcome_readLines (path : String) (number : Nat) {ss : List Sample} (h : ∀ s ∈ ss, s.IsKept) :
    (readLines path number (ss.map fun s => (Json.line s.toValue).toList)).outcome = (.ok ss, []) := by
  induction ss generalizing number with
  | nil => rfl
  | cons s ss ih =>
      rw [List.map_cons, readLines, readLine_line (h s (List.mem_cons_self ..))]
      show (readLines path (number + 1) _ >>= fun ss => pure (s :: ss)).outcome = _
      rw [Told.outcome_bind _ fun _ => Told.isSteady_pure _,
        ih (number + 1) fun s hs => h s (List.mem_cons_of_mem _ hs)]
      rfl

/-- A file that holds the lines of such samples and nothing else is read as these samples. -/
theorem outcome_readSamples {fs : Files} {path : String} {ss : List Sample} (h : ∀ s ∈ ss, s.IsKept)
    (hfile : fs.read? path = some (String.join (ss.map Sample.line))) :
    (readSamples fs path).outcome = (.ok ss, []) := by
  have hlines : Text.lines (String.join (ss.map Sample.line)) =
      ss.map fun s => (Json.line s.toValue).toList := by
    have hmap : ss.map Sample.line = (ss.map fun s => Json.line s.toValue).map (· ++ "\n") := by
      rw [List.map_map]
      rfl
    rw [hmap, Text.lines_join, List.map_map]
    · rfl
    · intro l hl
      obtain ⟨s, -, rfl⟩ := List.mem_map.1 hl
      exact Text.isOneLine_of_printable (Json.printable_line _)
  rw [readSamples, hfile]
  show (readLines path 1 (Text.lines _)).outcome = _
  rw [hlines]
  exact outcome_readLines path 1 h

end SiteTrial
