import SiteTrial.Config.Loader
import SiteTrial.Proofs.Run.Log
import SiteTrial.Rehearsal.Browser

/-!
# Rehearsed runs

A host that always gets its sessions closed leaves none open behind any schedule; a rehearsal is one.

* `Run.closed_of_closes` : no event of such a host is that of a session that could not be closed;
* `Rehearsed.plan`, `Rehearsed.host` : a small run, of a scenario that there is and one that there is not,
  in which the second application never gets its page;
* `Rehearsed.Metronome` : a host that measures the same for everyone.
-/

namespace SiteTrial

/-- Where every session can be closed, every session that a worker closes is closed. -/
theorem Run.closed_of_closes {η : Type} [Host η]
    (hcloses : ∀ (session : Nat) (host : η), (Host.closeSession session host).outcome = .ok ())
    (p : Plan) (permits : Nat) (files : Files) (host : η) (schedule : List Nat) :
    ∀ e ∈ (start p permits files host).log p schedule, ¬ e.2.IsUnclosed := by
  rintro ⟨n, e⟩ he ⟨f, rfl⟩
  obtain ⟨session, host, hclosed⟩ := isAnswer_log p _ schedule _ he
  rw [hcloses] at hclosed
  cases hclosed

theorem Rehearsal.outcome_closeSession (session : Nat) (r : Rehearsal) :
    (Host.closeSession session r).outcome = .ok () := by
  show (r.endSession session).outcome = .ok ()
  unfold endSession
  cases r.staging <;> rfl

namespace Rehearsed

set_option maxRecDepth 10000 in
/-- The configuration where nothing is said. -/
def config : Config := (Config.load {} none []).toOption.get rfl

set_option maxRecDepth 10000 in
theorem load_config : Config.load {} none [] = .ok config := rfl

/-- A library with a scenario that does nothing. -/
def library : Library where
  entries := [("login", [(.text "name", .text "login")])]
  named := fun e he => by
    rw [List.mem_singleton.1 he]
    rfl

/-- A plan for a scenario of the library and one that it does not have. -/
def plan (iterations : Int) (samplesPath : Option String) : Plan where
  config := config
  library := library
  names := ["login", "nowhere"]
  iterations := iterations
  samplesPath := samplesPath

/-- A host of which the first session has a blank page, and the second none. -/
def host : Rehearsal where
  staging := .direct
  offers := [{}, { openFailure := some (.automation (.refused "page setup" "no page")) }]
  surroundings := { draws := .cycle [], date := "2024-05-01T10:00:00" }

structure Metronome where
  beats : Nat := 0

/-- What it measures. -/
def measured : Measured where
  timestamp := "2024-05-01T10:00:00"
  url := "about:blank"
  vitals := {}
  timings := {}
  metrics := {}
  userAgent := .text ""

instance : Host Metronome where
  now m := m.beats
  date _ := "2024-05-01T10:00:00"
  openSession m := { outcome := .ok 0, host := m }
  perform _ _ m := { outcome := .ok measured, host := { m with beats := m.beats + 1 } }
  pause _ _ m := { outcome := .ok (), host := m }
  closeSession _ m := { outcome := .ok (), host := m }

/-- So many turns for each of the four workers, one turn at a time. -/
def inTurn (turns : Nat) : List Nat := (List.replicate turns [0, 1, 2, 3]).flatten

/-- So many turns for each of the four workers, one worker at a time. -/
def oneByOne (turns : Nat) : List Nat := [0, 1, 2, 3].flatMap (List.replicate turns)

end Rehearsed

end SiteTrial
