import SiteTrial.Proofs.Sample.Projection

/-!
# From the recorder to the sample

* `Recording`, `Recorder.addAll` : recordings one after another;
* `ApplicationMetrics.Shows` : metrics hold what a recorder holds, and beside it only the timing marks of a page;
* `Sampling.shows_of_measure` : those of a measurement show the recorder that it was given.
-/

namespace SiteTrial

/-- A time that is filed. -/
structure Recording where
  category : Category
  key : String
  time : Measurement

namespace Recorder

/-- Files recordings one after another. -/
def addAll (r : Recorder) (l : List Recording) : Recorder := l.foldl (fun r e => r.set e.category e.key e.time) r

theorem addAll_append (r : Recorder) (l m : List Recording) : r.addAll (l ++ m) = (r.addAll l).addAll m :=
  List.foldl_append

end Recorder

namespace ApplicationMetrics

/-- What is shown beside the navigation times that were recorded are timing marks. -/
structure Shows (a : ApplicationMetrics) (r : Recorder) : Prop where
  navigation : ∃ marks : Table Float, (∀ e ∈ marks, ∃ label, e.1 = markKey label) ∧
    a.navigationTimes = timeFields (recordedTimes r.navigation ++ marks)
  apiResponse : a.apiResponseTimes = timeFields (recordedTimes r.apiResponse)
  formProcessing : a.formProcessingTimes = timeFields (recordedTimes r.formProcessing)

end ApplicationMetrics

/-- Timing marks stand behind the times that are there, which stay as they are. -/
theorem exists_marks_of_mergeMarks {marks : Fields} {times merged : Table Float}
    (h : mergeMarks times marks = .ok merged) :
    ∃ more : Table Float, (∀ e ∈ more, ∃ label, e.1 = markKey label) ∧ merged = times ++ more := by
  induction marks generalizing times with
  | nil =>
      cases h
      exact ⟨[], nofun, (List.append_nil _).symm⟩
  | cons e marks ih =>
      obtain ⟨label, v⟩ := e
      obtain ⟨x, -, h⟩ := exists_of_bind h
      obtain ⟨more, hmore, rfl⟩ := ih h
      unfold Table.putNew
      split
      · exact ⟨more, hmore, rfl⟩
      · refine ⟨(markKey label, x) :: more, ?_, by simp⟩
        exact List.forall_mem_cons.2 ⟨⟨label, rfl⟩, hmore⟩

theorem ApplicationMetrics.shows_of_ofRecorder {r : Recorder} {state : Value} {a : ApplicationMetrics}
    (h : ofRecorder r state = .ok a) : a.Shows r := by
  obtain ⟨marks, -, h⟩ := exists_of_bind h
  obtain ⟨merged, hmerged, h⟩ := exists_of_bind h
  cases h
  obtain ⟨more, hmore, rfl⟩ := exists_marks_of_mergeMarks hmerged
  exact ⟨⟨more, hmore, rfl⟩, rfl, rfl⟩

/-- Whatever the page answers, the metrics of a measurement show the recorder that it was given. -/
theorem Sampling.shows_of_measure {σ : Type} [Page σ] {settle : Int} {url : String} {r : Recorder}
    {v v' : Visit σ} {m : Measured} (h : (measure settle url r).run.run v = (.ok m, v')) : m.metrics.Shows r := by
  obtain ⟨_, _, -, h⟩ := exists_of_run_bind h
  obtain ⟨userAgent, _, -, h⟩ := exists_of_run_bind h
  obtain ⟨⟨vitals, timings, metrics⟩, _, hparts, h⟩ := exists_of_run_bind h
  cases h
  obtain ⟨_, _, -, -, hmetrics⟩ := exists_of_run_allThree hparts
  obtain ⟨state, _, -, hmetrics⟩ := exists_of_run_bind hmetrics
  exact ApplicationMetrics.shows_of_ofRecorder (Browse.eq_of_run_ofFault hmetrics)

end SiteTrial
