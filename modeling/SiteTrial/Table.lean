/-!
# Tables

Values under names, in the order in which the names first came.

* `Table.get?`, `Table.put` : looking a name up and setting it, the place of a known name kept;
* `Table.keys` : the names in order.
-/

namespace SiteTrial

/-- Values under names, in the order in which the names first came. -/
abbrev Table (β : Type) := List (String × β)

namespace Table

variable {β : Type}

/-- The value under a name. -/
def get? (t : Table β) (name : String) : Option β := t.lookup name

/-- Sets a name: a known name keeps its place, a new one goes to the end. -/
def put : Table β → String → β → Table β
  | [], name, v => [(name, v)]
  | (k, w) :: rest, name, v => if k = name then (k, v) :: rest else (k, w) :: put rest name v

/-- Sets a name only if it is new. -/
def putNew (t : Table β) (name : String) (v : β) : Table β :=
  if (t.get? name).isSome then t else t ++ [(name, v)]

def keys (t : Table β) : List String := t.map Prod.fst

/-- Whether a name has a value. -/
def has (t : Table β) (name : String) : Bool := (t.get? name).isSome

/-- The entries written one after another. -/
def ofList (entries : List (String × β)) : Table β :=
  entries.foldl (fun t e => put t e.1 e.2) []

theorem get?_put (t : Table β) (a b : String) (v : β) :
    get? (put t a v) b = if b = a then some v else get? t b := by
  induction t with
  | nil => by_cases h : b = a <;> simp [put, get?, List.lookup_cons, h, beq_eq_false_iff_ne.2]
  | cons e rest ih =>
    obtain ⟨k, w⟩ := e
    simp only [get?] at ih
    by_cases hk : k = a
    · subst hk
      by_cases h : b = k <;> simp [put, get?, List.lookup_cons, h, beq_eq_false_iff_ne.2]
    · by_cases hb : b = k
      · subst hb
        simp [put, get?, hk]
      · have hb' : (b == k) = false := beq_eq_false_iff_ne.2 hb
        simp [put, get?, List.lookup_cons, hk, hb', ih]

end Table

end SiteTrial
