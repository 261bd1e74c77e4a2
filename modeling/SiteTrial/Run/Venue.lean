import SiteTrial.Run.Comparison
/-!
# Venues

A venue is where the host of a run comes from and where it goes afterwards.

* `Venue` : anything that provides hosts;
* `Venue.nowhere` : the venue that has none to give;
* `compareSitesAt` : a whole run at a venue.
-/

namespace SiteTrial

structure Venue (η : Type) where
  /-- The host for a run of this configuration. -/
  launch : Config → Except Failure η
  /-- What is left of a host when the run is over. -/
  leave : η → η := id

/-- What a run at a venue leaves behind. -/
structure Visited (η : Type) where
  report : Except Failure Report
  notices : List Notice := []
  files : Files
  peak : Nat := 0
  /-- The host, if the venue had one to give. -/
  host : Option η := none

def compareSitesAt {η : Type} [Host η] (venue : Venue η) (config : Config) (l : Library) (q : Request)
    (files : Files) : Visited η :=
  match venue.launch config with
  | .error f => { report := .error f, files := files }
  | .ok host =>
    let a := compareSites config l q files host
    { report := a.report, notices := a.notices, files := a.files, peak := a.peak
      host := some (venue.leave a.host) }

/-- No host at all. -/
inductive NoHost

instance : Host NoHost where
  now := nofun
  date := nofun
  openSession := nofun
  perform _ _ := nofun
  pause _ _ := nofun
  closeSession _ := nofun

def Venue.nowhere : Venue NoHost where
  launch _ := .error (.automation (.refused "browser launch" "no browser is at hand"))

end SiteTrial
