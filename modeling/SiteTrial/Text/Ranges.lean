/-!
# Sets of characters as ranges

* `Ranges` : code point ranges, both ends included, in rising order;
* `Ranges.has` : whether a character falls into one of them.
-/

namespace SiteTrial.Text

abbrev Ranges := List (Nat × Nat)

namespace Ranges

def has (rs : Ranges) (c : Char) : Bool :=
  rs.any fun r => r.1 ≤ c.toNat && c.toNat ≤ r.2

@[simp] theorem has_nil (c : Char) : has [] c = false := rfl

theorem has_cons (r : Nat × Nat) (rs : Ranges) (c : Char) :
    has (r :: rs) c = ((r.1 ≤ c.toNat && c.toNat ≤ r.2) || has rs c) := rfl

end Ranges

end SiteTrial.Text
