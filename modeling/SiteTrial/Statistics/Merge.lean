import SiteTrial.Statistics.Search
/-!
# Merging two sorted rows

Of two rows the smaller first values are taken one by one until one row wins too often in a row; then
as many values as possible are taken at once. Rows may be merged from their ends as well.

* `Direction` : which end the values are taken from;
* `Rows` : two rows, what is left of them, and what was taken;
* `Rows.settle` : ends the merging where one row alone is left;
* `merge` : the merged row, and how often a row has to win before more is taken at once.
-/

namespace SiteTrial.Sorted

inductive Direction where
  | front
  | back
deriving DecidableEq

/-- Two rows in the order in which their values are taken, and the values taken, last one first. -/
structure Rows (α : Type) where
  direction : Direction
  first : List α
  second : List α
  taken : List α := []

variable {α : Type} (lt : α → α → Bool)

namespace Rows

/-- Takes values from the first row. -/
def takeFirst (r : Rows α) (n : Nat) : Rows α :=
  { r with first := r.first.drop n, taken := (r.first.take n).reverse ++ r.taken }

/-- Takes values from the second row. -/
def takeSecond (r : Rows α) (n : Nat) : Rows α :=
  { r with second := r.second.drop n, taken := (r.second.take n).reverse ++ r.taken }

/-- All values, the taken ones followed by some others. -/
def close (r : Rows α) (rest : List α) : List α := r.taken.reverse ++ rest

/-- Ends the merging where a row is used up, or where all but the last value of the row that was the
shorter one are taken: that value is known to come last. -/
def settle (r : Rows α) : Except (List α) (Rows α) :=
  if r.first.isEmpty || r.second.isEmpty then .error (r.close (r.first ++ r.second))
  else
    match r.direction, r.first, r.second with
    | .front, [v], second => .error (r.close (second ++ [v]))
    | .back, first, [v] => .error (r.close (first ++ [v]))
    | _, _, _ => .ok r

/-- Whether a value of the second row comes before one of the first; among equals the first row's
value is the smaller one. -/
def secondWins (r : Rows α) (v w : α) : Bool :=
  match r.direction with
  | .front => lt w v
  | .back => !lt w v

/-- How many values of a row the question holds for, asked from its start. -/
def ahead (r : Rows α) (holds : α → Bool) (row : List α) : Nat :=
  boundary (r.direction == .front) (fun i => (row[i]?).any holds) row.length

/-- How many values of the first row come before the second row. -/
def firstAhead (r : Rows α) : Nat :=
  match r.second with
  | [] => r.first.length
  | w :: _ => r.ahead (fun v => !r.secondWins lt v w) r.first

/-- How many values of the second row come before the first row. -/
def secondAhead (r : Rows α) : Nat :=
  match r.first with
  | [] => r.second.length
  | v :: _ => r.ahead (r.secondWins lt v) r.second

/-- Takes all that comes before the second row and a value of that, then all that comes before the
first row and a value of that; answers the larger of the two numbers. -/
def leap (r : Rows α) : Except (List α) (Nat × Rows α) := do
  let m := r.firstAhead lt
  let r ← (r.takeFirst m).settle
  let r ← (r.takeSecond 1).settle
  let n := r.secondAhead lt
  let r ← (r.takeSecond n).settle
  let r ← (r.takeFirst 1).settle
  return (max m n, r)

end Rows

/-- How the next values are taken. -/
inductive Pace where
  /-- One by one; the numbers are the last wins of the two rows. -/
  | single (first second : Nat)
  /-- As many as possible at once. -/
  | leaping

/-- How many values have to be taken at once for more to be so. -/
def leastLeap : Nat := 7

/-- Merges rows; every round takes a value. `patience` wins in a row make for leaps, and every leap
that is followed by another makes that easier. -/
def mergeRounds : Nat → Rows α → Pace → (patience : Nat) → List α × Nat
  | 0, r, _, patience => (r.close (r.first ++ r.second), patience)
  | n + 1, r, .single a b, patience =>
    let second := match r.first, r.second with
      | v :: _, w :: _ => r.secondWins lt v w
      | _, _ => false
    let (a, b) := if second then (0, b + 1) else (a + 1, 0)
    match (if second then r.takeSecond 1 else r.takeFirst 1).settle with
    | .error done => (done, patience)
    | .ok r =>
      if patience ≤ max a b then mergeRounds n r .leaping (patience + 1)
      else mergeRounds n r (.single a b) patience
  | n + 1, r, .leaping, patience =>
    let patience := if 1 < patience then patience - 1 else patience
    match r.leap lt with
    | .error done => (done, patience)
    | .ok (leap, r) =>
      if leastLeap ≤ leap then mergeRounds n r .leaping patience
      else mergeRounds n r (.single 0 0) (patience + 1)

/-- Merges rows, of which the first value is known to come from the row that was the longer one. -/
def mergeRows (r : Rows α) (patience : Nat) : List α × Nat :=
  let start := match r.direction with
    | .front => r.takeSecond 1
    | .back => r.takeFirst 1
  match start.settle with
  | .error done => (done, patience)
  | .ok s => mergeRounds lt (r.first.length + r.second.length) s (.single 0 0) patience

/-- How many values of a sorted row come before another one. -/
def lead (first second : List α) : Nat :=
  match second with
  | [] => first.length
  | w :: _ => boundary true (fun i => (first[i]?).any fun v => !lt w v) first.length

/-- How many values of a sorted row come behind another one. -/
def trail (first second : List α) : Nat :=
  match first.getLast? with
  | none => second.length
  | some v =>
    let back := second.reverse
    boundary false (fun i => (back[i]?).any fun w => !lt w v) second.length

/-- Two sorted rows of which none comes before or behind the other one, merged from the end that needs
less room. -/
def mergeMiddle (first second : List α) (patience : Nat) : List α × Nat :=
  if first.isEmpty || second.isEmpty then (first ++ second, patience)
  else if first.length ≤ second.length then mergeRows lt ⟨.front, first, second, []⟩ patience
  else
    let (merged, patience) := mergeRows lt ⟨.back, first.reverse, second.reverse, []⟩ patience
    (merged.reverse, patience)

/-- Two sorted rows as one, equals of the first row in front. What stands in the right place already is
left alone; the rest is merged. -/
def merge (first second : List α) (patience : Nat) : List α × Nat :=
  let head := lead lt first second
  let a := first.drop head
  let b := second.take (second.length - trail lt a second)
  let (middle, patience) := mergeMiddle lt a b patience
  (first.take head ++ middle ++ second.drop b.length, patience)

end SiteTrial.Sorted
