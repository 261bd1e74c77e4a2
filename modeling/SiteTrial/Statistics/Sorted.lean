import SiteTrial.Statistics.Merge
/-!
# Sorting measurements

Sorting uses only the question whether one value is below another, so a value without an order, which
is below nothing, gets the place that the questions asked give it. Which those are is fixed: rising
and falling runs are found, short ones are filled up by insertion, and neighbours are merged.

* `Sorted.run` : the longest rising or falling run in front, rising;
* `Sorted.insert` : puts a value into a sorted list, behind its equals;
* `Sorted.leastRun` : how long a run should be;
* `Sorted.depth` : how deep the border of two runs lies in a tree that halves the whole again and again;
* `sorted` : the values in rising order.
-/

namespace SiteTrial.Sorted

variable {α : Type} (lt : α → α → Bool)

/-! ## Runs -/

/-- Moves values from the list onto the run, held last value first, while `more` accepts them. -/
def extend (more : α → α → Bool) : List α → List α → List α × List α
  | last :: taken, v :: rest =>
    if more v last then extend more (v :: last :: taken) rest else (last :: taken, v :: rest)
  | taken, rest => (taken, rest)
termination_by _ rest => rest.length

/-- The run in front, in rising order, and the values behind it. -/
def run : List α → List α × List α
  | a :: b :: rest =>
    if lt b a then extend lt [b, a] rest
    else
      let (taken, rest) := extend (fun v last => !lt v last) [b, a] rest
      (taken.reverse, rest)
  | vs => (vs, [])

def insert (vs : List α) (v : α) : List α :=
  let i := bisect true (fun i => (vs[i]?).any fun w => !lt v w) 0 vs.length
  vs.take i ++ v :: vs.drop i

/-- How long a run should be, at 32 to 64 such that the number of runs is near a power of two; a
shorter list is one run. -/
def leastRun (count : Nat) : Nat :=
  let share := Nat.pow 2 (count.log2 - 5)
  (count + share - 1) / share

/-- The run in front, filled up with the values behind it if it is short, and the values left. -/
def filledRun (least : Nat) (vs : List α) : List α × List α :=
  let (front, rest) := run lt vs
  let missing := least - front.length
  ((rest.take missing).foldl (insert lt) front, rest.drop missing)

/-! ## Which runs are merged -/

/-- A run with the place where it begins, and the depth of its border with the next one. -/
structure Placed (α : Type) where
  start : Nat
  values : List α
  depth : Nat := 0

/-- The depth of the border between two neighbours in a list of `count` values: how often the list has
to be halved until the middles of the two lie in different parts. -/
def depth (count start first second : Nat) : Nat :=
  let a := 2 * start + first
  let b := a + first + second
  ((List.range (count.log2 + 2)).find? fun n => a * Nat.pow 2 n / count != b * Nat.pow 2 n / count).getD 0

/-- A step of sorting; how often a row has to win before more is taken at once is kept. -/
abbrev Sorting := StateM Nat

/-- Two neighbouring runs as one. -/
def join (a b : Placed α) : Sorting (Placed α) := do
  let (values, patience) := merge lt a.values b.values (← get)
  set patience
  return { a with values := values }

/-- Merges the last runs, the last one first in the list, while a border lies deeper than another. -/
def joinDeeper (depth : Nat) : List (Placed α) → Sorting (List (Placed α))
  | b :: a :: rest =>
    if depth < a.depth then do
      joinDeeper depth ((← join lt a b) :: rest)
    else return b :: a :: rest
  | runs => return runs
termination_by runs => runs.length

/-- Merges all runs, the last one first in the list, neighbours of similar length first. -/
def joinAll : Nat → List (Placed α) → Sorting (List α)
  | _, [] => return []
  | _, [a] => return a.values
  | 0, runs => return runs.reverse.flatMap Placed.values
  | n + 1, c :: b :: rest =>
    match rest with
    | a :: rest =>
      if a.values.length < c.values.length then do
        joinAll n (c :: (← join lt a b) :: rest)
      else do
        joinAll n ((← join lt b c) :: a :: rest)
    | [] => do joinAll n [← join lt b c]

/-- Finds the runs of the values from a place on, and merges those that lie too deep. -/
def collect (count : Nat) : Nat → (start : Nat) → List (Placed α) → List α →
    Sorting (List (Placed α))
  | 0, _, runs, _ => return runs
  | n + 1, start, runs, vs => do
    if vs.isEmpty then return runs
    let (values, rest) := filledRun lt (leastRun count) vs
    let runs ← match runs with
      | [] => pure []
      | top :: _ => do
        let depth := depth count top.start top.values.length values.length
        match ← joinDeeper lt depth runs with
        | top :: runs => pure ({ top with depth := depth } :: runs)
        | [] => pure []
    collect count n (start + values.length) ({ start := start, values := values } :: runs) rest

/-- The values in rising order, equals in their first order. -/
def sorted (vs : List α) : List α :=
  let sorting : Sorting (List α) := do
    let runs ← collect lt vs.length (vs.length + 1) 0 [] vs
    joinAll lt runs.length runs
  (sorting.run leastLeap).1

end SiteTrial.Sorted
