/-!
# Searching for a boundary

A question that is answered by yes up to a place and by no from there on has its boundary at that
place. Which numbers are asked about matters where the answers are not of this form.

* `Sorted.bisect` : the boundary between two numbers, by halving;
* `Sorted.stride` : the numbers 1, 3, 7 and so on, while the answer is yes;
* `Sorted.boundary` : the boundary among the first numbers, by striding and then halving.
-/

namespace SiteTrial.Sorted

/-- The boundary between two numbers; `late` takes the later one of two middles. -/
def bisect (late : Bool) (holds : Nat → Bool) (low high : Nat) : Nat :=
  if low < high then
    let middle := low + (if late then high - low else high - low - 1) / 2
    if holds middle then bisect late holds (middle + 1) high else bisect late holds low middle
  else low
termination_by high - low
decreasing_by
  · split <;> omega
  · split <;> omega

/-- The last of the numbers 1, 3, 7, … below a limit up to which the answer is yes, and the next one,
or the limit if that comes first. -/
def stride (holds : Nat → Bool) (limit last next : Nat) : Nat × Nat :=
  if next < limit then
    if holds next then stride holds limit next (2 * next + 1) else (last, next)
  else (last, limit)
termination_by limit - next

/-- The boundary among the first `count` numbers, searched for from zero on. -/
def boundary (late : Bool) (holds : Nat → Bool) (count : Nat) : Nat :=
  if holds 0 then
    let (last, next) := stride holds count 0 1
    bisect late holds (last + 1) next
  else 0

end SiteTrial.Sorted
