import SiteTrial.Text.CaseTable
/-!
# Upper and lower case

* `lower`, `upper` : a text in lower and in upper case;
* `lowerChar`, `upperChar` : one character, which may become several.

A capital sigma becomes the final form at the end of a word: behind a character with case and not
before one, characters that belong to no word left out.
-/

namespace SiteTrial.Text

/-- The partner of a code point in a table of runs, or the code point itself. -/
def partner (runs : List (Nat × Nat × Nat × Int)) (n : Nat) : Nat :=
  match runs.find? fun (first, last, step, _) => first ≤ n && n ≤ last && (n - first) % step == 0 with
  | some (_, _, _, shift) => ((n : Int) + shift).toNat
  | none => n

/-- One character in lower case, the sigma in its form inside a word. -/
def lowerChar (c : Char) : List Char :=
  if c.toNat < 128 then [c.toLower]
  else if c = '\u0130' then ['i', '\u0307']
  else [Char.ofNat (partner lowerRuns c.toNat)]

/-- One character in upper case. -/
def upperChar (c : Char) : List Char :=
  if c.toNat < 128 then [c.toUpper]
  else match upperExpansions.lookup c.toNat with
    | some ns => ns.map Char.ofNat
    | none => [Char.ofNat (partner upperRuns c.toNat)]

/-- Whether the first character that counts for a word's end has case. -/
def meetsCase (cs : List Char) : Bool :=
  match cs.dropWhile caseIgnorableRanges.has with
  | [] => false
  | c :: _ => casedRanges.has c

/-- The characters in lower case; `before` are those in front of them, the nearest first. -/
def lowerChars (before : List Char) : List Char → List Char
  | [] => []
  | c :: cs =>
    let here :=
      if c = '\u03a3' then
        (if meetsCase before && !meetsCase cs then ['\u03c2'] else ['\u03c3'])
      else lowerChar c
    here ++ lowerChars (c :: before) cs

def lower (s : String) : String := String.ofList (lowerChars [] s.toList)

def upper (s : String) : String := String.ofList (s.toList.flatMap upperChar)

end SiteTrial.Text
