import SiteTrial.CommandLine.Outcome
import SiteTrial.Proofs.Run.Rehearsed
import SiteTrial.Proofs.Run.Whole
import SiteTrial.Proofs.Value.Range

/-!
# What the status of a run says

A run that is refused, breaks or cannot be printed ends with the status 1 and has written no report. Where a
report is written, the status depends on it alone, but for one thing: the path of the report is printed last,
and a path that cannot be printed ends the command like a run that failed.

* `Report.IsPrintable`, `publish_of_printable` : when a report is printed, and what becomes of one that is;
* `Report.exists_text_iff` : a report can be written exactly if its time is finite;
* `RunOptions.Reports` : the run comes to a report that is printed;
* `RunOptions.outcome_cases` : the run has failed before, or the report goes to its file;
* `RunOptions.exitStatus_says` : what each status says about the files.
-/

namespace SiteTrial

open Files

/-! ## Printing -/

namespace Text

theorem pieces_cons_of_ne_mark {c : Char} (h : c ≠ mark) (cs : List Char) :
    pieces (c :: cs) = [c] :: pieces cs := by
  cases cs with
  | nil => rfl
  | cons d cs => rw [pieces, if_neg h]

/-- Whether a character stands for itself, and is no half of a pair. -/
def isPlain (c : Char) : Bool := c != mark && !isHalf c.toNat

/-- Plain characters in front of a text do not matter to whether it is without halves. -/
theorem isWhole_append {front : String} (h : front.toList.all isPlain = true) (s : String) :
    isWhole (front ++ s) = isWhole s := by
  have hpoints : ∀ cs : List Char, cs.all isPlain = true →
      (points (cs ++ s.toList)).any isHalf = (points s.toList).any isHalf := by
    intro cs hcs
    induction cs with
    | nil => rfl
    | cons c cs ih =>
        simp only [List.all_cons, isPlain, Bool.and_eq_true, bne_iff_ne, Bool.not_eq_true'] at hcs
        obtain ⟨⟨hmark, hhalf⟩, hrest⟩ := hcs
        rw [List.cons_append, points, pieces_cons_of_ne_mark hmark, List.map_cons, List.any_cons]
        show (isHalf c.toNat || _) = _
        rw [hhalf, Bool.false_or]
        exact ih hrest
  rw [isWhole, String.toList_append, hpoints front.toList h]
  rfl

end Text

namespace Report

/-- Every line of the report can be printed. -/
def IsPrintable (r : Report) : Prop :=
  r.openingLines.all Text.isWhole = true ∧ r.hasPrintableCounts = true ∧
    r.closingLines.all Text.isWhole = true

/-- A report has a text exactly if its time is finite. -/
theorem exists_text_iff (r : Report) : (∃ text, r.text = .ok text) ↔ r.executionTime.isFinite = true := by
  have htime := integerOf_eq_error_iff (r := .nearestEven) (x := r.executionTime)
  unfold text toValue
  cases hn : integerOf .nearestEven r.executionTime with
  | error f =>
      refine iff_of_false nofun ?_
      rw [htime.1 ⟨f, hn⟩]
      exact Bool.false_ne_true
  | ok n =>
      refine iff_of_true ⟨_, rfl⟩ ?_
      rw [hn] at htime
      rw [← Bool.not_eq_false]
      exact fun h => absurd (htime.2 h) nofun

end Report

namespace Outcome

variable {files : Files} {lines : List String} {rest : Outcome}

theorem ending_printing : (printing files lines rest).ending =
    if lines.all Text.isWhole then rest.ending else .broken (.fault .unencodable) := by
  unfold printing
  split <;> rfl

theorem files_printing :
    (printing files lines rest).files = if lines.all Text.isWhole then rest.files else files := by
  unfold printing
  split <;> rfl

end Outcome

theorem publish_of_unprintable {report : Report} (h : ¬ report.IsPrintable) (path : Option String)
    (ending : Ending) (files : Files) (notices : List Notice) :
    (publish report path ending files notices).ending.exitStatus = 1 ∧
      (publish report path ending files notices).files = files := by
  unfold publish
  rw [Outcome.ending_printing, Outcome.files_printing]
  by_cases hopening : report.openingLines.all Text.isWhole = true
  · rw [if_pos hopening, if_pos hopening]
    by_cases hcounts : report.hasPrintableCounts = true
    · rw [if_pos hcounts, Outcome.ending_printing, Outcome.files_printing]
      by_cases hclosing : report.closingLines.all Text.isWhole = true
      · exact absurd ⟨hopening, hcounts, hclosing⟩ h
      · rw [if_neg hclosing, if_neg hclosing]
        exact ⟨rfl, rfl⟩
    · rw [if_neg hcounts]
      exact ⟨rfl, rfl⟩
  · rw [if_neg hopening, if_neg hopening]
    exact ⟨rfl, rfl⟩

/-- A report that is printed goes to its file; then its path is printed. -/
theorem publish_of_printable {report : Report} (h : report.IsPrintable) (path : String)
    (ending : Ending) (files : Files) (notices : List Notice) :
    (publish report (some path) ending files notices).files = (files.apply (report.write path)).2 ∧
      (publish report (some path) ending files notices).ending =
        match (files.apply (report.write path)).1 with
        | .ok _ => if Text.isWhole path then ending else .broken (.fault .unencodable)
        | .error f => .broken (.fault f) := by
  obtain ⟨hopening, hcounts, hclosing⟩ := h
  have hpath : ["Report written to " ++ path].all Text.isWhole = Text.isWhole path := by
    rw [List.all_cons, List.all_nil, Bool.and_true]
    exact Text.isWhole_append (by decide) path
  unfold publish
  rw [Outcome.ending_printing, Outcome.files_printing, if_pos hopening, if_pos hopening, if_pos hcounts,
    Outcome.ending_printing, Outcome.files_printing, if_pos hclosing, if_pos hclosing]
  dsimp only
  cases hwrite : files.apply (report.write path) with
  | mk r files' =>
      cases r with
      | error f => exact ⟨rfl, rfl⟩
      | ok u =>
          dsimp only
          rw [Outcome.ending_printing, Outcome.files_printing, hpath]
          exact ⟨ite_self _, rfl⟩

/-! ## Running -/

namespace RunOptions

/-- The place of the sample file that is asked for, if there is one. -/
def IsSamplePlace (o : RunOptions) (q : Place) : Prop :=
  ∃ path, givenPath o.samplesPath = some path ∧ q = Path.place path

variable {η : Type} [Host η]

/-- The run comes to a report, which is printed and then goes to a file among those that are left. -/
structure Reports (o : RunOptions) (venue : Venue η) (env : Table String) (files : Files)
    (report : Report) (path : String) (left : Files) : Prop where
  printable : report.IsPrintable
  comes : ∃ config library, o.load env files = .ok (config, library) ∧ o.unknown library = [] ∧
    path = o.reportPathIn config ∧
    (compareSitesAt venue config library o.request files).report = .ok report ∧
    (compareSitesAt venue config library o.request files).files = left

/-- The run comes to a report of which the text is written to a file. -/
def Writes (o : RunOptions) (venue : Venue η) (env : Table String) (files : Files) (report : Report)
    (path text : String) : Prop :=
  ∃ left, o.Reports venue env files report path left ∧ report.text = .ok text ∧
    (left.apply (report.write path)).1 = .ok ()

variable {o : RunOptions} {venue : Venue η} {env : Table String} {files left : Files} {report : Report}
  {path text : String}

theorem Reports.unique {report' : Report} {path' : String} {left' : Files}
    (h : o.Reports venue env files report path left)
    (h' : o.Reports venue env files report' path' left') :
    report' = report ∧ path' = path ∧ left' = left := by
  obtain ⟨config, library, hload, -, rfl, hreport, rfl⟩ := h.comes
  obtain ⟨config', library', hload', -, rfl, hreport', rfl⟩ := h'.comes
  rw [hload] at hload'
  cases hload'
  rw [hreport] at hreport'
  cases hreport'
  exact ⟨rfl, rfl, rfl⟩

theorem frame_run (config : Config) (library : Library) :
    Frame files (compareSitesAt venue config library o.request files).files o.IsSamplePlace :=
  frame_compareSitesAt venue config library o.request files

theorem Reports.frame (h : o.Reports venue env files report path left) :
    Frame files left o.IsSamplePlace := by
  obtain ⟨config, library, -, -, -, -, rfl⟩ := h.comes
  exact frame_run config library

theorem outcome_of_reports (h : o.Reports venue env files report path left) : ∃ notices,
    (o.outcome venue env files).1 = publish report (some path) (o.ending report) left notices := by
  obtain ⟨config, library, hload, hunknown, rfl, hreport, rfl⟩ := h.comes
  unfold outcome conclude
  rw [hload]
  dsimp only
  rw [hunknown, if_pos List.isEmpty_nil, hreport]
  dsimp only
  exact ⟨_, rfl⟩

/-- A run that comes to no report that is printed leaves the files alone. -/
theorem outcome_of_not_reports
    (h : ∀ report path left, ¬ o.Reports venue env files report path left) :
    (o.outcome venue env files).1.ending.exitStatus = 1 ∧
      Frame files (o.outcome venue env files).1.files o.IsSamplePlace := by
  unfold outcome
  cases hload : o.load env files with
  | error f =>
      dsimp only
      unfold Outcome.ofFailure
      split <;> exact ⟨rfl, .refl files _⟩
  | ok loaded =>
      obtain ⟨config, library⟩ := loaded
      dsimp only
      split
      · next hunknown =>
          unfold conclude
          cases hreport : (compareSitesAt venue config library o.request files).report with
          | error f => exact ⟨rfl, frame_run config library⟩
          | ok report =>
              have hprinted : ¬ report.IsPrintable := fun hprintable => h report _ _
                ⟨hprintable, config, library, hload, List.isEmpty_iff.1 hunknown, rfl, hreport, rfl⟩
              obtain ⟨hstatus, hfiles⟩ := publish_of_unprintable hprinted
                (some (o.reportPathIn config)) (o.ending report)
                (compareSitesAt venue config library o.request files).files
                (compareSitesAt venue config library o.request files).notices
              refine ⟨hstatus, ?_⟩
              dsimp only
              rw [hfiles]
              exact frame_run config library
      · exact ⟨rfl, .refl files _⟩

/-! ## What the status says -/

theorem Writes.unique {report' : Report} {path' text' : String}
    (h : o.Writes venue env files report path text)
    (h' : o.Writes venue env files report' path' text') :
    report' = report ∧ path' = path ∧ text' = text := by
  obtain ⟨left, hreports, htext, -⟩ := h
  obtain ⟨left', hreports', htext', -⟩ := h'
  obtain ⟨rfl, rfl, rfl⟩ := hreports.unique hreports'
  rw [htext] at htext'
  cases htext'
  exact ⟨rfl, rfl, rfl⟩

/-- A run writes nothing besides samples, or its report, unless that has a time that is not finite. -/
theorem outcome_cases (o : RunOptions) (venue : Venue η) (env : Table String) (files : Files) :
    ((∀ report path text, ¬ o.Writes venue env files report path text) ∧
      (o.outcome venue env files).1.ending.exitStatus = 1 ∧
      (Frame files (o.outcome venue env files).1.files o.IsSamplePlace ∨
        ∃ report path left, o.Reports venue env files report path left ∧
          report.executionTime.isFinite = false)) ∨
    ∃ report path text, o.Writes venue env files report path text ∧
      (o.outcome venue env files).1.files.read? path = some text ∧
      (o.outcome venue env files).1.ending =
        if Text.isWhole path then o.ending report else .broken (.fault .unencodable) := by
  by_cases hany : ∃ report path left, o.Reports venue env files report path left
  · obtain ⟨report, path, left, hreports⟩ := hany
    obtain ⟨notices, hout⟩ := outcome_of_reports hreports
    obtain ⟨hfiles, hending⟩ :=
      publish_of_printable hreports.printable path (o.ending report) left notices
    rw [hout, hfiles, hending]
    have hunwritten : ∀ f, (left.apply (report.write path)).1 = .error f →
        ∀ report' path' text, ¬ o.Writes venue env files report' path' text := by
      rintro f hf report' path' text ⟨left', hreports', -, hwrite⟩
      obtain ⟨rfl, rfl, rfl⟩ := hreports.unique hreports'
      rw [hf] at hwrite
      cases hwrite
    rcases left.apply_write_cases path report.text with
      ⟨f, hf, hframe⟩ | ⟨f, htext, hf⟩ | ⟨text, htext, hok, hholds⟩
    · refine .inl ⟨hunwritten f hf, ?_, .inl (hreports.frame.trans (hframe _))⟩
      rw [Report.write, hf]
      rfl
    · refine .inl ⟨hunwritten f hf, ?_, .inr ⟨report, path, left, hreports, ?_⟩⟩
      · rw [Report.write, hf]
        rfl
      · rw [← Bool.not_eq_true, ← report.exists_text_iff, htext]
        exact nofun
    · refine .inr ⟨report, path, text, ⟨left, hreports, htext, hok⟩, hholds.read?, ?_⟩
      rw [Report.write, hok]
  · have hnone : ∀ report path left, ¬ o.Reports venue env files report path left :=
      fun report path left h => hany ⟨report, path, left, h⟩
    obtain ⟨hstatus, hframe⟩ := outcome_of_not_reports hnone
    exact .inl ⟨fun report path text ⟨left, h, _⟩ => hnone report path left h, hstatus, .inl hframe⟩

theorem exitStatus_ending (o : RunOptions) (report : Report) : (o.ending report).exitStatus =
    if o.failOnRegression = true ∧ ∃ s ∈ report.scenarios, s.regressions ≠ [] then 2 else 0 := by
  have hregressions : report.regressions.isEmpty = false ↔
      ∃ s ∈ report.scenarios, s.regressions ≠ [] := by
    rw [Report.regressions, ← Bool.not_eq_true, List.isEmpty_iff, List.flatMap_eq_nil_iff]
    push Not
    rfl
  refine if_congr ?_ rfl rfl
  rw [Bool.and_eq_true, Bool.not_eq_true', hregressions]

/-- The status of a run is 0, 1 or 2. It is 2 exactly if regressions are to be told, the report has some and
was written under a path that can be printed. Unless the status is 1, the file holds the report. If it is 1,
no text but that of the sample file has changed, except where the report was written under a path that cannot
be printed, and where its time is not finite. -/
theorem exitStatus_says (o : RunOptions) (venue : Venue η) (env : Table String) (files : Files) :
    let out := (o.outcome venue env files).1
    let status := out.ending.exitStatus
    (status = 0 ∨ status = 1 ∨ status = 2) ∧
    (status = 2 ↔ o.failOnRegression = true ∧ ∃ report path text,
      o.Writes venue env files report path text ∧ Text.isWhole path = true ∧
        ∃ s ∈ report.scenarios, s.regressions ≠ []) ∧
    (status ≠ 1 → ∃ report path text, o.Writes venue env files report path text ∧
      out.files.read? path = some text) ∧
    (status = 1 → Frame files out.files o.IsSamplePlace ∨
      (∃ report path text, o.Writes venue env files report path text ∧ Text.isWhole path = false) ∨
      ∃ report path left, o.Reports venue env files report path left ∧
        report.executionTime.isFinite = false) ∧
    ∀ report path text, o.Writes venue env files report path text → Text.isWhole path = false →
      status = 1 ∧ out.files.read? path = some text := by
  intro out status
  rcases o.outcome_cases venue env files with
    ⟨hunwritten, hstatus, hfiles⟩ | ⟨report, path, text, hwrites, hread, hending⟩
  · have hone : status = 1 := hstatus
    refine ⟨.inr (.inl hone), ?_, fun h => absurd hone h, fun _ => ?_, ?_⟩
    · rw [hone]
      refine iff_of_false (by decide) ?_
      rintro ⟨-, report, path, text, hwrites, -⟩
      exact hunwritten _ _ _ hwrites
    · exact hfiles.imp_right .inr
    · intro report path text hwrites
      exact absurd hwrites (hunwritten _ _ _)
  · have hstatus : status = if Text.isWhole path then (o.ending report).exitStatus else 1 := by
      show out.ending.exitStatus = _
      rw [hending]
      split <;> rfl
    rw [exitStatus_ending] at hstatus
    have hsame : ∀ report' path' text', o.Writes venue env files report' path' text' →
        report' = report ∧ path' = path ∧ text' = text := fun _ _ _ h => hwrites.unique h
    refine ⟨?_, ?_, fun _ => ⟨report, path, text, hwrites, hread⟩, fun h => ?_, ?_⟩
    · rw [hstatus]
      split
      · split <;> simp
      · simp
    · rw [hstatus]
      constructor
      · intro h
        split at h
        · next hwhole =>
            split at h
            · next htold => exact ⟨htold.1, report, path, text, hwrites, hwhole, htold.2⟩
            · cases h
        · cases h
      · rintro ⟨hfail, report', path', text', hwrites', hwhole, hregressions⟩
        obtain ⟨rfl, rfl, rfl⟩ := hsame _ _ _ hwrites'
        rw [if_pos hwhole, if_pos ⟨hfail, hregressions⟩]
    · refine .inr (.inl ⟨report, path, text, hwrites, ?_⟩)
      rw [hstatus] at h
      split at h
      · split at h <;> cases h
      · next hwhole => exact Bool.eq_false_iff.2 hwhole
    · intro report' path' text' hwrites' hwhole
      obtain ⟨rfl, rfl, rfl⟩ := hsame _ _ _ hwrites'
      rw [hwhole] at hstatus
      exact ⟨hstatus, hread⟩

/-- A venue with a metronome for a host. -/
def hall : Venue Rehearsed.Metronome where
  launch _ := .ok {}

/-- A file with a scenario that does nothing. -/
def idle : Files := ⟨[(["s.json"], .file "\x7b\"scenarios\": [\x7b\"name\": \"x\"\x7d]\x7d")]⟩

/-- A run with the scenarios of that file. -/
def reportingTo (path : String) : RunOptions := { scenariosPath := "s.json", reportPath := some path }

theorem exitStatus_says_idle : ((reportingTo "r.json").outcome hall [] idle).1.ending.exitStatus ≠ 1 ∧
    ∃ report path text, (reportingTo "r.json").Writes hall [] idle report path text ∧
      ((reportingTo "r.json").outcome hall [] idle).1.files.read? path = some text := by
  have hstatus : ((reportingTo "r.json").outcome hall [] idle).1.ending.exitStatus ≠ 1 := by
    decide +kernel
  obtain ⟨-, -, hwritten, -⟩ := exitStatus_says (reportingTo "r.json") hall [] idle
  exact ⟨hstatus, hwritten hstatus⟩

/-- A path with a byte that is no character. -/
def oddPath : String := String.ofList ('r' :: Text.ofPoint 0xDCFF ++ ['.', 'j', 's', 'o', 'n'])

/-- A run with the status of one that failed, of which the report was written nevertheless. -/
theorem oddPath_written_and_failed :
    ((reportingTo oddPath).outcome hall [] idle).1.ending.exitStatus = 1 ∧
      idle.read? oddPath = none ∧
      (((reportingTo oddPath).outcome hall [] idle).1.files.read? oddPath).isSome = true := by
  decide +kernel

end RunOptions

end SiteTrial
