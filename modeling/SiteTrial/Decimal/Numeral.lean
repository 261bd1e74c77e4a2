import SiteTrial.Text.Blank
import SiteTrial.Text.Digit
import SiteTrial.Text.Hex
/-!
# Numbers read from text

* `ofDigits` : the value of a row of digits;
* `double` : the double nearest to a decimal with an exponent;
* `readInt?` : an integer as people write it: blanks around it, a sign, digits of any script, single
  underscores between digits;
* `readIntIn?` : the same in another base, with or without the letter of the base in front;
* `readDouble?` : a decimal under the same rules, with a fraction, an exponent, `inf` or `nan`.
-/

namespace SiteTrial.Decimal
open SiteTrial.Text

/-- The longest row of digits that is read as an integer. -/
def maxIntegerDigits : Nat := 4300

/-- The value of a row of digit values, most significant first. -/
def ofDigits (ds : List Nat) : Nat := ds.foldl (fun n d => 10 * n + d) 0

/-- The double nearest to `digits * 10 ^ exponent`, with a sign. -/
def double (negative : Bool) (digits : Nat) (exponent : Int) : Float :=
  let x := if 0 ≤ exponent then Float.ofScientific digits false exponent.toNat
    else Float.ofScientific digits true (-exponent).toNat
  if negative then -x else x

/-- The sign in front, if any, and the rest. -/
def takeSign : List Char → Bool × List Char
  | '-' :: rest => (true, rest)
  | '+' :: rest => (false, rest)
  | cs => (false, cs)

/-- The characters without underscores, if each of these stands between two digits. -/
def joinGroups? : (afterDigit : Bool) → List Char → Option (List Char)
  | _, [] => some []
  | afterDigit, '_' :: c :: rest =>
    if afterDigit && c.isDigit then (joinGroups? true rest).map (c :: ·) else none
  | _, ['_'] => none
  | _, c :: rest => (joinGroups? c.isDigit rest).map (c :: ·)

/-- Digits of every script as ASCII digits, and other characters as they are. -/
def asciiDigits (cs : List Char) : List Char :=
  cs.map fun c => match digitValue? c with
    | some d => Char.ofNat (48 + d)
    | none => c

/-- The values of ASCII digits, if there is at least one and nothing else. -/
def digitValues? (cs : List Char) : Option (List Nat) :=
  if cs.isEmpty then none else cs.mapM asciiDigitValue?

/-- The digits in front and the rest. -/
def spanDigits (cs : List Char) : List Char × List Char :=
  (cs.takeWhile Char.isDigit, cs.dropWhile Char.isDigit)

/-- A blank around a number: any but the four separators of records. -/
def isMargin (c : Char) : Bool := isBlank c && !('\x1c' ≤ c && c ≤ '\x1f')

/-- The characters of a number without the blanks around it, with ASCII digits. -/
def numeralChars (s : String) : List Char := asciiDigits (trimWhere isMargin s.toList)

def readInt? (s : String) : Option Int := do
  let (negative, cs) := takeSign (numeralChars s)
  let ds ← joinGroups? false cs
  let vs ← digitValues? ds
  if vs.length > maxIntegerDigits then none
  else
    let n : Int := ofDigits vs
    return if negative then -n else n

/-- The letter of a base, which may stand behind a zero in front of its digits. -/
def baseLetter? (base : Nat) : Option Char := [(2, 'b'), (8, 'o'), (16, 'x')].lookup base

/-- The digits of a base without a zero and the letter of the base in front. -/
def withoutBaseMark (base : Nat) : List Char → List Char
  | '0' :: c :: ds => if baseLetter? base = some c.toLower then ds else '0' :: c :: ds
  | ds => ds

/-- An integer in a base of two, eight or sixteen, of any length and without underscores. -/
def readIntIn? (base : Nat) (s : String) : Option Int := do
  let (negative, cs) := takeSign (numeralChars s)
  let vs ← (withoutBaseMark base cs).mapM hexValue?
  if vs.isEmpty || vs.any (base ≤ ·) then none
  else
    let n : Int := Int.ofNat (vs.foldl (fun n v => base * n + v) 0)
    return if negative then -n else n

/-- The exponent at the end of a decimal. -/
def readExponent? : List Char → Option Int
  | [] => some 0
  | c :: cs =>
    if c = 'e' ∨ c = 'E' then do
      let (negative, ds) := takeSign cs
      let n : Int := ofDigits (← digitValues? ds)
      return if negative then -n else n
    else none

/-- A decimal without sign, blanks and underscores. -/
def readUnsigned? (negative : Bool) (cs : List Char) : Option Float := do
  let (whole, rest) := spanDigits cs
  let (part, rest) := match rest with
    | '.' :: rest => spanDigits rest
    | _ => ([], rest)
  let vs ← digitValues? (whole ++ part)
  let e ← readExponent? rest
  return double negative (ofDigits vs) (e - part.length)

/-- The double that is no number. -/
def notANumber : Float := 0.0 / 0.0

/-- The infinite double of a sign. -/
def infinity (negative : Bool) : Float := if negative then -1.0 / 0.0 else 1.0 / 0.0

/-- A decimal as people write it. -/
def readDouble? (s : String) : Option Float := do
  let cs ← joinGroups? false (numeralChars s)
  let (negative, cs) := takeSign cs
  let word := cs.map Char.toLower
  if word = "inf".toList ∨ word = "infinity".toList then return infinity negative
  else if word = "nan".toList then return notANumber
  else readUnsigned? negative cs

end SiteTrial.Decimal
