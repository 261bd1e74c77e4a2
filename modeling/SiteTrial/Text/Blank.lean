import SiteTrial.Text.Ranges
/-!
# Blank characters

* `isBlank` : white space of every script, line and paragraph separators included;
* `trimWhere`, `trim` : a text without certain characters, or the blanks, at its two ends.
-/

namespace SiteTrial.Text

/-- White space of every script, with the separators of lines, paragraphs and records. -/
def blankRanges : Ranges := [
  (0x9, 0xD), (0x1C, 0x20), (0x85, 0x85), (0xA0, 0xA0), (0x1680, 0x1680), (0x2000, 0x200A),
  (0x2028, 0x2029), (0x202F, 0x202F), (0x205F, 0x205F), (0x3000, 0x3000)]

def isBlank (c : Char) : Bool := blankRanges.has c

/-- The characters without those of a kind at both ends. -/
def trimWhere (isOuter : Char → Bool) (cs : List Char) : List Char :=
  ((cs.dropWhile isOuter).reverse.dropWhile isOuter).reverse

/-- The characters without the blanks at both ends. -/
def trimChars (cs : List Char) : List Char := trimWhere isBlank cs

def trim (s : String) : String := String.ofList (trimChars s.toList)

@[simp] theorem toList_trim (s : String) : (trim s).toList = trimChars s.toList := by
  simp [trim]

end SiteTrial.Text
