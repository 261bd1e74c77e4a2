import SiteTrial.Proofs.Files.Append
import SiteTrial.Proofs.Json.Alone
import SiteTrial.Proofs.Run.Persistence
import SiteTrial.Proofs.Sample.Malformed

/-!
# Extending a sample file

A record is put behind the last character of a file. Behind the end of a line it is a line of its own, and
is read behind all that was read before. Behind anything else but blanks it is no line of its own, and
neither the record nor what stands before it can be read.

* `Text.unfinished` : what stands behind the last line end;
* `Text.lines_eq`, `Text.lines_append_line` : the lines of a text, and those with a line put behind it;
* `readLine_blank_append`, `sampleIn?_append_line` : the record behind blanks, and behind anything else;
* `answer_readSamples_append_iff` : when a file is read as before with the record behind it.
-/

namespace SiteTrial

/-! ## Lines -/

namespace Text

def isLineEnd (c : Char) : Bool := c == '\n' || c == '\r'

/-- A text up to its last line end. -/
def finished (s : String) : List Char := (s.toList.reverse.dropWhile fun c => !isLineEnd c).reverse

/-- What stands behind the last line end of a text. -/
def unfinished (s : String) : List Char := (s.toList.reverse.takeWhile fun c => !isLineEnd c).reverse

theorem finished_append_unfinished (s : String) : finished s ++ unfinished s = s.toList := by
  rw [finished, unfinished, ← List.reverse_append, List.takeWhile_append_dropWhile,
    List.reverse_reverse]

theorem isOneLine_unfinished (s : String) : IsOneLine (unfinished s) := by
  have hinner : ∀ c ∈ unfinished s, isLineEnd c = false := by
    intro c hc
    simpa using List.mem_takeWhile_imp (List.mem_reverse.1 hc)
  exact ⟨fun hmem => absurd (hinner _ hmem) (by decide), fun hmem => absurd (hinner _ hmem) (by decide)⟩

theorem finished_cases (s : String) :
    finished s = [] ∨ ∃ front c, finished s = front ++ [c] ∧ isLineEnd c = true := by
  obtain hnone | ⟨front, c, hlast⟩ := List.eq_nil_or_concat' (finished s)
  · exact .inl hnone
  · refine .inr ⟨front, c, hlast, ?_⟩
    have hdropped : (s.toList.reverse.dropWhile fun c => !isLineEnd c) = c :: front.reverse := by
      rw [← List.reverse_inj, ← finished, hlast, List.reverse_cons, List.reverse_reverse]
    have hhead := List.head?_dropWhile_not (fun c => !isLineEnd c) s.toList.reverse
    rw [hdropped] at hhead
    simpa using hhead

/-- Line ends are found piece by piece, if no piece begins in the middle of one. -/
theorem unifyChars_append {cs ds : List Char} (hds : ds.head? ≠ some '\n') :
    unifyChars (cs ++ ds) = unifyChars cs ++ unifyChars ds := by
  fun_induction unifyChars cs with
  | case1 cs ih => rw [List.cons_append, List.cons_append, unifyChars, ih, List.cons_append]
  | case2 cs hcs ih =>
      rw [List.cons_append, unifyChars, ih, List.cons_append]
      intro rest hrest
      cases cs with
      | nil => exact hds (by rw [← List.nil_append ds, hrest]; rfl)
      | cons c cs => exact hcs cs (by rw [(List.cons.inj hrest).1])
  | case3 c cs hpair hreturn ih =>
      rw [List.cons_append, unifyChars, ih, List.cons_append]
      · exact fun _ hc => absurd hc hreturn
      · exact hreturn
  | case4 => rw [List.nil_append, List.nil_append]

theorem exists_unifyChars_concat (cs : List Char) {c : Char} (hc : isLineEnd c = true) :
    ∃ front, unifyChars (cs ++ [c]) = front ++ ['\n'] := by
  obtain rfl | rfl : c = '\n' ∨ c = '\r' := by simpa [isLineEnd] using hc
  · fun_induction unifyChars cs with
    | case1 cs ih =>
        obtain ⟨front, hfront⟩ := ih
        exact ⟨'\n' :: front, by rw [List.cons_append, List.cons_append, unifyChars, hfront]; rfl⟩
    | case2 cs hcs ih =>
        cases cs with
        | nil => exact ⟨[], rfl⟩
        | cons d cs =>
            obtain ⟨front, hfront⟩ := ih
            refine ⟨'\n' :: front, ?_⟩
            rw [List.cons_append, unifyChars, hfront]
            · rfl
            · exact fun rest hrest => hcs cs (by rw [(List.cons.inj hrest).1])
    | case3 d cs hpair hreturn ih =>
        obtain ⟨front, hfront⟩ := ih
        refine ⟨d :: front, ?_⟩
        rw [List.cons_append, unifyChars, hfront]
        · rfl
        · exact fun _ hd => absurd hd hreturn
        · exact hreturn
    | case4 => exact ⟨[], rfl⟩
  · exact ⟨unifyChars cs, unifyChars_append (by decide)⟩

theorem splitLines_append (gathered cs ds : List Char) :
    splitLines gathered (cs ++ '\n' :: ds) =
      splitLines gathered (cs ++ ['\n']) ++ splitLines [] ds := by
  fun_induction splitLines gathered cs with
  | case1 gathered | case2 gathered => rfl
  | case3 gathered cs ih => exact congrArg (gathered.reverse :: ·) ih
  | case4 gathered c cs hc ih =>
      rw [List.cons_append, List.cons_append, splitLines, splitLines, ih]
      all_goals exact hc

/-- Lines that are finished are found whatever stands behind them. -/
theorem splitLines_finished_append (s : String) {ds : List Char} (hreturn : '\r' ∉ ds)
    (hhead : ds.head? ≠ some '\n') :
    splitLines [] (unifyChars (finished s ++ ds)) =
      splitLines [] (unifyChars (finished s)) ++ splitLines [] ds := by
  rw [unifyChars_append hhead, unifyChars_eq_self hreturn]
  obtain hnone | ⟨cs, c, hlast, hc⟩ := finished_cases s
  · rw [hnone]
    rfl
  · obtain ⟨front, hfront⟩ := exists_unifyChars_concat cs hc
    rw [hlast, hfront, List.append_assoc, List.singleton_append, splitLines_append]

theorem splitLines_rest {line : List Char} (h : '\n' ∉ line) (gathered : List Char) :
    splitLines gathered line =
      if (gathered.reverse ++ line).isEmpty then [] else [gathered.reverse ++ line] := by
  induction line generalizing gathered with
  | nil => simp [splitLines]
  | cons c line ih =>
      have hc : c ≠ '\n' := fun hc => h (hc ▸ List.mem_cons_self ..)
      rw [splitLines, ih fun hmem => h (List.mem_cons_of_mem _ hmem), List.reverse_cons,
        List.append_assoc, List.singleton_append]
      exact hc

/-- The lines of a text that are finished. -/
def finishedLines (s : String) : List (List Char) := splitLines [] (unifyChars (finished s))

theorem lines_eq (s : String) :
    lines s = finishedLines s ++ if (unfinished s).isEmpty then [] else [unfinished s] := by
  have hone := isOneLine_unfinished s
  have hhead : (unfinished s).head? ≠ some '\n' := fun h => hone.1 (List.mem_of_mem_head? h)
  rw [lines, ← finished_append_unfinished s, splitLines_finished_append s hone.2 hhead,
    splitLines_rest hone.1]
  rfl

/-- A line that is put behind a text continues what is not finished. -/
theorem lines_append_line (s : String) {line : String} (hline : IsOneLine line.toList)
    (hsome : line.toList ≠ []) :
    lines (s ++ (line ++ "\n")) = finishedLines s ++ [unfinished s ++ line.toList] := by
  obtain ⟨hfeed, hreturn⟩ := isOneLine_unfinished s
  have hall : (s ++ (line ++ "\n")).toList =
      finished s ++ (unfinished s ++ line.toList ++ ['\n']) := by
    rw [String.toList_append, String.toList_append, ← finished_append_unfinished s]
    simp
  have hnoFeed : '\n' ∉ unfinished s ++ line.toList := by simp [hfeed, hline.1]
  have hnoReturn : '\r' ∉ unfinished s ++ line.toList ++ ['\n'] := by simp [hreturn, hline.2]
  have hhead : (unfinished s ++ line.toList ++ ['\n']).head? ≠ some '\n' := by
    obtain ⟨c, cs, hcs⟩ :=
      List.exists_cons_of_ne_nil (List.append_ne_nil_of_right_ne_nil (unfinished s) hsome)
    rw [hcs] at hnoFeed ⊢
    exact fun h => hnoFeed (Option.some.inj h ▸ List.mem_cons_self ..)
  rw [lines, hall, splitLines_finished_append s hnoReturn hhead, splitLines_line hnoFeed]
  rfl

theorem trimChars_eq_nil {cs : List Char} (h : ∀ c ∈ cs, isBlank c = true) : trimChars cs = [] := by
  rw [trimChars, trimWhere, List.dropWhile_eq_nil_iff.2 h]
  rfl

theorem trimChars_blank_append {cs : List Char} (h : ∀ c ∈ cs, isBlank c = true) (ds : List Char) :
    trimChars (cs ++ ds) = trimChars ds := by
  rw [trimChars, trimWhere, List.dropWhile_append_of_pos h]
  rfl

/-- Behind other characters than blanks, only those in front are trimmed. -/
theorem exists_trimChars_append {cs : List Char} (h : ¬ ∀ c ∈ cs, isBlank c = true) (inner : List Char)
    {last : Char} (hlast : isBlank last = false) :
    ∃ c ds, isBlank c = false ∧ trimChars (cs ++ (inner ++ [last])) = c :: ds ++ (inner ++ [last]) := by
  have hrest : cs.dropWhile isBlank ≠ [] := fun hnone => h (List.dropWhile_eq_nil_iff.1 hnone)
  obtain ⟨c, ds, hcs⟩ := List.exists_cons_of_ne_nil hrest
  have hc : isBlank c = false := by
    have hhead := List.head?_dropWhile_not isBlank cs
    rw [hcs] at hhead
    simpa using hhead
  refine ⟨c, ds, hc, ?_⟩
  have hdrop : (cs ++ (inner ++ [last])).dropWhile isBlank = c :: (ds ++ inner) ++ [last] := by
    rw [List.dropWhile_append, hcs, if_neg (by simp)]
    simp
  rw [trimChars, trimWhere, hdrop, List.reverse_append, List.reverse_singleton, List.singleton_append,
    List.dropWhile_cons_of_neg (by simp [hlast]), List.reverse_cons, List.reverse_reverse,
    List.cons_append, List.append_assoc, List.cons_append]

end Text

/-! ## Records -/

theorem sampleIn?_of_blank {line : List Char} (h : ∀ c ∈ line, Text.isBlank c = true) :
    sampleIn? line = none := by
  rw [sampleIn?, Text.trimChars_eq_nil h, read_nil]
  rfl

theorem readLine_blank_append {cs : List Char} (h : ∀ c ∈ cs, Text.isBlank c = true) (ds : List Char) :
    readLine (cs ++ ds) = readLine ds := by
  rw [readLine, Text.trimChars_blank_append h]
  rfl

theorem exists_line_timestamp (s : Sample) :
    ∃ rest, (Json.line s.toValue).toList = '\x7b' :: '"' :: ("timestamp".toList ++ '"' :: rest) := by
  have hkey : (Json.keyText (.text "timestamp")).toList = '"' :: ("timestamp".toList ++ ['"']) := by
    decide +kernel
  unfold Sample.toValue Value.record
  rw [Json.line]
  simp only [List.map_cons, Json.lineFields, String.toList_append, hkey, String.toList_intercalate]
  exact ⟨_, rfl⟩

/-- A record behind other characters than blanks, on one line with them, is lost. -/
theorem sampleIn?_append_line {s : Sample} (h : s.IsKept) {cs : List Char}
    (hcs : ¬ ∀ c ∈ cs, Text.isBlank c = true) :
    sampleIn? (cs ++ (Json.line s.toValue).toList) = none := by
  obtain ⟨inner, hinner⟩ : ∃ inner, (Json.line s.toValue).toList = '\x7b' :: inner ++ ['\x7d'] :=
    Json.exists_line_mapping _
  have hbrace : Text.isBlank '\x7d' = false := by decide
  obtain ⟨c, ds, hc, htrim⟩ := Text.exists_trimChars_append hcs ('\x7b' :: inner) hbrace
  have hgap : Json.isGap c = false := by
    rw [Bool.eq_false_iff]
    intro hgap
    rcases Json.eq_of_isGap hgap with rfl | rfl | rfl | rfl <;> exact absurd hc (by decide)
  have hwritten := h.written
  obtain ⟨rest, hrest⟩ := exists_line_timestamp s
  rw [← hinner] at htrim
  rw [← String.ofList_toList (s := Json.line s.toValue), hrest] at hwritten
  have hword : ∀ c ∈ "timestamp".toList, Json.isWordPart c = true :=
    List.all_eq_true.1 (by decide +kernel)
  have hnone : Json.word "timestamp".toList = .malformed := by decide +kernel
  have hlost := Json.read_append_ne_ok hgap hword hnone (by decide) hwritten ds
  rw [← hrest] at hlost
  rw [sampleIn?, htrim]
  cases hread : Json.read (String.ofList (c :: ds ++ (Json.line s.toValue).toList)) with
  | error e => rfl
  | ok w => exact absurd hread (hlost w)

/-! ## Files -/

theorem eq_of_answer_readLines {path : String} {number : Nat} {lines : List (List Char)}
    {samples : List Sample} (h : (readLines path number lines).answer = .ok samples) :
    (∀ line ∈ lines, ∀ f, ¬ EndsReading line f) ∧ samples = lines.filterMap sampleIn? := by
  have hnone : ∀ line ∈ lines, ∀ f, ¬ EndsReading line f := by
    intro line hmem f hends
    obtain ⟨f', hf'⟩ := @answer_readLines_of_some path number lines ⟨line, hmem, f, hends⟩
    rw [hf'] at h
    cases h
  rw [answer_readLines_of_none hnone] at h
  exact ⟨hnone, (Except.ok.inj h).symm⟩

theorem readSamples_of_read? {fs : Files} {path text : String} (h : fs.read? path = some text) :
    readSamples fs path = readLines path 1 (Text.lines text) := by
  rw [readSamples, h]

theorem lines_append_line (text : String) (s : Sample) :
    Text.lines (text ++ s.line) =
      Text.finishedLines text ++ [Text.unfinished text ++ (Json.line s.toValue).toList] := by
  refine Text.lines_append_line text (Text.isOneLine_of_printable (Json.printable_line _)) ?_
  obtain ⟨rest, hrest⟩ := exists_line_timestamp s
  rw [hrest]
  exact List.cons_ne_nil _ _

/-- Lines with one more line behind them are read as before with the record behind it exactly if what is
not finished is blank. -/
theorem answer_readLines_append_line {path text : String} {before : List Sample} {s : Sample}
    (hbefore : (readLines path 1 (Text.lines text)).answer = .ok before) (hkept : s.IsKept) :
    (readLines path 1 (Text.lines (text ++ s.line))).answer = .ok (before ++ [s]) ↔
      ∀ c ∈ Text.unfinished text, Text.isBlank c = true := by
  obtain ⟨hsteady, hsamples⟩ := eq_of_answer_readLines hbefore
  rw [Text.lines_eq] at hsteady hsamples
  rw [lines_append_line]
  constructor
  · intro h
    by_contra hblank
    -- the line is lost, so there are at most as many samples as before
    obtain ⟨-, hafter⟩ := eq_of_answer_readLines h
    rw [List.filterMap_append, List.filterMap_cons, sampleIn?_append_line hkept hblank] at hafter
    have hlength := congrArg List.length hafter
    rw [hsamples, List.filterMap_append] at hlength
    simp at hlength
  · intro hblank
    have hunfinished : before = (Text.finishedLines text).filterMap sampleIn? := by
      rw [hsamples, List.filterMap_append]
      split
      · simp
      · simp [sampleIn?_of_blank hblank]
    have hline : readLine (Text.unfinished text ++ (Json.line s.toValue).toList) = .sample s := by
      rw [readLine_blank_append hblank, readLine_line hkept]
    have hnone : ∀ line ∈ Text.finishedLines text ++
        [Text.unfinished text ++ (Json.line s.toValue).toList], ∀ f, ¬ EndsReading line f := by
      intro line hmem f hends
      rcases List.mem_append.1 hmem with hmem | hmem
      · exact hsteady line (List.mem_append_left _ hmem) f hends
      · obtain rfl := List.mem_singleton.1 hmem
        have hfault := fault?_readLine.2 hends
        rw [hline] at hfault
        cases hfault
    rw [answer_readLines_of_none hnone, List.filterMap_append, List.filterMap_cons,
      ← sample?_readLine, hline, hunfinished]
    rfl

/-- A sample can be put into every sample file that is read, and into a new one. What was read before is
then read again, with the sample behind it, exactly if nothing but blanks stood behind the last line end. -/
theorem answer_readSamples_append_iff {fs : Files} {path text : String} {before : List Sample}
    {s : Sample} (hfile : fs.Holds path text ∨ fs.IsNew path ∧ text = "")
    (hbefore : (readSamples fs path).answer = .ok before) (hkept : s.IsKept) :
    ∃ fs', fs.apply (appendSample path s) = (.ok (), fs') ∧
      ((readSamples fs' path).answer = .ok (before ++ [s]) ↔
        ∀ c ∈ Text.unfinished text, Text.isBlank c = true) := by
  obtain ⟨fs', happend, hholds⟩ : ∃ fs', fs.apply (appendSample path s) = (.ok (), fs') ∧
      fs'.Holds path (text ++ s.line) := by
    obtain hold | ⟨hnew, rfl⟩ := hfile
    · exact hold.append s.line
    · rw [String.empty_append]
      exact hnew.append s.line
  have hlines : (readLines path 1 (Text.lines text)).answer = .ok before := by
    obtain hold | ⟨hnew, rfl⟩ := hfile
    · rw [← readSamples_of_read? hold.read?]
      exact hbefore
    · rw [readSamples, hnew.unread] at hbefore
      exact hbefore
  refine ⟨fs', happend, ?_⟩
  rw [readSamples_of_read? hholds.read?]
  exact answer_readLines_append_line hlines hkept

theorem holds_filed (text : String) : (filed "samples.jsonl" text).Holds "samples.jsonl" text :=
  Files.holds_of_read? rfl (.inl (by decide +kernel))

theorem answer_readSamples_filed (text : String)
    (h : ∀ line ∈ Text.lines text, (readLine line).fault? = none) :
    (readSamples (filed "samples.jsonl" text) "samples.jsonl").answer =
      .ok ((Text.lines text).filterMap sampleIn?) := by
  rw [readSamples_of_read? (holds_filed text).read?]
  refine answer_readLines_of_none fun line hmem f hends => ?_
  have hsome := fault?_readLine.2 hends
  rw [h line hmem] at hsome
  cases hsome

/-- The sample of a small run. -/
def measuredOnce : Sample := Rehearsed.measured.sample ⟨"pre", "Baseline Application", "login", 1⟩

theorem isKept_measuredOnce : measuredOnce.IsKept :=
  Rehearsed.isKept_measured _ (List.mem_cons_self ..)

/-- Half a record, a record, and blanks behind its line. -/
def blankEnd : String := "\x7b\"url\":\n\x7b\"scenario\": \"login\"\x7d\r\n \t"

theorem answer_readSamples_append_blankEnd :
    ∃ before fs',
      (readSamples (filed "samples.jsonl" blankEnd) "samples.jsonl").answer = .ok before ∧
      before.map (·.scenario) = ["login"] ∧
      (filed "samples.jsonl" blankEnd).apply (appendSample "samples.jsonl" measuredOnce) = (.ok (), fs') ∧
      (readSamples fs' "samples.jsonl").answer = .ok (before ++ [measuredOnce]) := by
  have hbefore := answer_readSamples_filed blankEnd (by decide +kernel)
  obtain ⟨fs', happend, hiff⟩ := answer_readSamples_append_iff (.inl (holds_filed blankEnd)) hbefore
    isKept_measuredOnce
  exact ⟨_, fs', hbefore, by decide +kernel, happend,
    hiff.2 (List.all_eq_true.1 (by decide +kernel))⟩

/-- A record and no line end. -/
def openEnd : String := "\x7b\"scenario\": \"login\"\x7d"

/-- The record is read, and another one is put behind it: then neither can be read. -/
theorem append_openEnd_loses :
    ∃ before fs',
      (readSamples (filed "samples.jsonl" openEnd) "samples.jsonl").answer = .ok before ∧
      before.map (·.scenario) = ["login"] ∧
      (filed "samples.jsonl" openEnd).apply (appendSample "samples.jsonl" measuredOnce) = (.ok (), fs') ∧
      ∀ after, (readSamples fs' "samples.jsonl").answer = .ok after → after = [] := by
  have hbefore := answer_readSamples_filed openEnd (by decide +kernel)
  obtain ⟨fs', happend, hholds⟩ := (holds_filed openEnd).append measuredOnce.line
  refine ⟨_, fs', hbefore, by decide +kernel, happend, fun after hafter => ?_⟩
  have hopen : ¬ ∀ c ∈ Text.unfinished openEnd, Text.isBlank c = true :=
    fun hblank => absurd (List.all_eq_true.2 hblank) (by decide +kernel)
  have hlines : Text.lines (openEnd ++ measuredOnce.line) =
      [Text.unfinished openEnd ++ (Json.line measuredOnce.toValue).toList] :=
    lines_append_line openEnd measuredOnce
  rw [readSamples_of_read? hholds.read?, hlines] at hafter
  obtain ⟨-, hnone⟩ := eq_of_answer_readLines hafter
  rw [hnone, List.filterMap_cons, sampleIn?_append_line isKept_measuredOnce hopen]
  rfl

end SiteTrial
