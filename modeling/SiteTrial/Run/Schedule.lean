import SiteTrial.Run.Worker
/-!
# Schedules

Workers act in any order. A schedule says whose turn it is; a worker that cannot act lets its turn
pass.

* `Run` : the workers and what they share;
* `Run.turn`, `Run.follow` : one turn, and the turns of a schedule;
* `Run.next?`, `Run.drive` : the order in which a run is carried out: whoever is on its way to a
  session goes first, then one worker after another, until all are over or one is broken.
-/

namespace SiteTrial

structure Run (η : Type) where
  workers : List Worker
  shared : Shared η

namespace Run

variable {η : Type} [Host η]

/-- The workers of a plan, before anyone has acted. -/
def workersOf (names : List String) : List Worker :=
  names.flatMap fun name => Side.all.map fun side => { name := name, side := side }

/-- A run before anyone has acted. -/
def start (p : Plan) (permits : Nat) (files : Files) (host : η) : Run η :=
  { workers := workersOf p.names, shared := { host := host, permits := permits, files := files } }

/-- The turn of the worker with a number. -/
def turn (p : Plan) (r : Run η) (number : Nat) : Run η :=
  match r.workers[number]? with
  | none => r
  | some w =>
    if w.canAct r.shared then
      let (phase, shared) := w.act p r.shared
      ⟨r.workers.set number { w with phase := phase }, shared⟩
    else r

def follow (p : Plan) (r : Run η) (schedule : List Nat) : Run η := schedule.foldl (turn p) r

/-- Whether every worker has come to its end. -/
def isOver (r : Run η) : Bool := r.workers.all fun w => w.phase.isOver

/-- The numbers of the workers that can act. -/
def able (r : Run η) : List Nat :=
  (List.range r.workers.length).filter fun n => (r.workers[n]?).any fun w => w.canAct r.shared

/-- Whether the worker with a number is on its way to a session. -/
def isArriving (r : Run η) (number : Nat) : Bool :=
  (r.workers[number]?).any fun w => w.phase.isArriving

/-- Whose turn it is behind the turn of a worker; nobody's once a worker is broken. -/
def next? (r : Run η) (last : Nat) : Option Nat :=
  if r.shared.fault.isSome then none
  else (r.able.find? r.isArriving).or ((r.able.find? fun n => last < n).or r.able.head?)

/-- At most so many turns, the first behind the turn of a worker. -/
def driveFor (p : Plan) : (turns last : Nat) → Run η → Run η
  | 0, _, r => r
  | turns + 1, last, r =>
    match r.next? last with
    | none => r
    | some number => driveFor p turns number (r.turn p number)

/-- How many turns a worker has at most. -/
def turnsOf (p : Plan) : Nat := 2 * p.iterations.toNat + 4

/-- All turns. -/
def drive (p : Plan) (r : Run η) : Run η := driveFor p (r.workers.length * turnsOf p) 0 r

/-- How many iterations failed. -/
def failed (r : Run η) : Int :=
  (r.workers.map fun w => match w.phase with
    | .finished n => n
    | _ => 0).foldr (· + ·) 0

end Run

end SiteTrial
