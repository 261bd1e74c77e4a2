/-!
# Lines

A line ends with a line feed, a carriage return or the two together.

* `unifyLineEnds` : every line end as a line feed;
* `lines` : the lines of a text without their ends; what stands behind the last end is a line too,
  unless it is empty.
-/

namespace SiteTrial.Text

/-- Every line end as a line feed. -/
def unifyChars : List Char → List Char
  | '\r' :: '\n' :: cs => '\n' :: unifyChars cs
  | '\r' :: cs => '\n' :: unifyChars cs
  | c :: cs => c :: unifyChars cs
  | [] => []

def unifyLineEnds (s : String) : String := String.ofList (unifyChars s.toList)

/-- The lines of characters whose line ends are line feeds; `gathered` is the line so far, its last
character first. -/
def splitLines (gathered : List Char) : List Char → List (List Char)
  | [] => if gathered.isEmpty then [] else [gathered.reverse]
  | '\n' :: cs => gathered.reverse :: splitLines [] cs
  | c :: cs => splitLines (c :: gathered) cs

def lines (s : String) : List (List Char) := splitLines [] (unifyChars s.toList)

end SiteTrial.Text
