/-!
# Random choices

* `Draws` : a source of numbers and how many of them were taken;
* `Draws.cycle` : the source that repeats a list;
* `Draws.below`, `Draws.fraction` : a number below a bound and a part of one, each from one draw.
-/

namespace SiteTrial

structure Draws where
  /-- The number of each draw. -/
  number : Nat → Int
  taken : Nat := 0

namespace Draws

def cycle (numbers : List Int) : Draws :=
  { number := fun n => (numbers[n % numbers.length]?).getD 0 }

/-- The next number. -/
def current (d : Draws) : Int := d.number d.taken

/-- The source after a draw. -/
def next (d : Draws) : Draws := { d with taken := d.taken + 1 }

/-- The number below a bound that the next draw gives. -/
def below (d : Draws) (bound : Int) : Int := d.current.emod bound

/-- The part of one, in steps of a 1024th, that the next draw gives. -/
def fraction (d : Draws) : Float := Float.ofInt (d.below 1024) / 1024.0

end Draws

end SiteTrial
