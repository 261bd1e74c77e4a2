/-!
# Time

Time is counted in ticks, of which a second has 64, so that a tick is exactly 15.625 milliseconds.
-/

namespace SiteTrial

/-- A number of ticks in milliseconds. -/
def milliseconds (ticks : Nat) : Float := Float.ofNat ticks * 15.625

end SiteTrial
