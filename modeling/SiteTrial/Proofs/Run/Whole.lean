import SiteTrial.Proofs.Files.Frame
import SiteTrial.Proofs.Run.Shared
import SiteTrial.Run.Venue

/-!
# The files of a whole run

The order in which a run is carried out is one of its schedules, and behind each of them the files have got
the samples and nothing else. So a run, whatever it comes to, leaves every text alone but that of its sample
file.

* `Run.exists_drive_eq_follow` : the schedule of a run;
* `Plan.IsSamplePlace`, `Plan.within_keep` : the place of the sample file, and putting samples there;
* `frame_compareSitesAt` : the files behind a whole run.
-/

namespace SiteTrial

open Files

variable {η : Type} [Host η]

theorem Run.exists_driveFor_eq_follow (p : Plan) (turns last : Nat) (r : Run η) :
    ∃ schedule, driveFor p turns last r = r.follow p schedule := by
  induction turns generalizing last r with
  | zero => exact ⟨[], rfl⟩
  | succ turns ih =>
      unfold driveFor
      split
      · exact ⟨[], rfl⟩
      · next number hnext =>
          obtain ⟨schedule, hschedule⟩ := ih number (r.turn p number)
          exact ⟨number :: schedule, hschedule⟩

theorem Run.exists_drive_eq_follow (p : Plan) (r : Run η) :
    ∃ schedule, r.drive p = r.follow p schedule := exists_driveFor_eq_follow p _ _ r

namespace Plan

/-- The place of the sample file, if there is one. -/
def IsSamplePlace (p : Plan) (q : Place) : Prop := ∃ path, p.samplesPath = some path ∧ q = Path.place path

theorem within_keep (p : Plan) (s : Sample) : Filing.Within p.IsSamplePlace (p.keep s) := by
  intro fs
  unfold keep
  split
  · exact .refl fs _
  · next path hpath => exact (Filing.within_append path s.line fs).mono fun q hq => ⟨path, hpath, hq⟩

theorem frame_foldl (p : Plan) (ss : List Sample) (fs : Files) :
    Frame fs (ss.foldl (fun fs s => (fs.apply (p.keep s)).2) fs) p.IsSamplePlace := by
  induction ss generalizing fs with
  | nil => exact .refl fs _
  | cons s ss ih => exact (p.within_keep s fs).trans (ih _)

end Plan

theorem frame_compareSites (config : Config) (l : Library) (q : Request) (files : Files) (host : η) :
    Frame files (compareSites config l q files host).files (q.plan config l).IsSamplePlace := by
  unfold compareSites
  split
  · exact .refl files _
  · obtain ⟨schedule, hdrive⟩ := Run.exists_drive_eq_follow (q.plan config l)
      (Run.start (q.plan config l) (q.limit config).toNat files host)
    have hgathered := Run.gathered (q.plan config l) (q.limit config).toNat files host schedule
    rw [← hdrive] at hgathered
    show Frame files (Run.drive _ _).shared.files _
    rw [hgathered.files]
    exact (q.plan config l).frame_foldl _ files

/-- A run at a venue changes no text but that of its sample file. -/
theorem frame_compareSitesAt (venue : Venue η) (config : Config) (l : Library) (q : Request)
    (files : Files) :
    Frame files (compareSitesAt venue config l q files).files (q.plan config l).IsSamplePlace := by
  unfold compareSitesAt
  split
  · exact .refl files _
  · exact frame_compareSites config l q files _

end SiteTrial
