import SiteTrial.Decimal.Shortest
/-!
# How numbers are written

* `Layout` : where positional notation ends and whether `.0` is kept;
* `Layout.plain` : the layout of every number that is read back by a program;
* `Layout.brief` : the layout of numbers in messages to people, six digits at most;
* `written` : a double by its shortest digits; `signed` : the same with a plus sign kept;
* `brief` : a double in six significant digits, or as an integer from a million on.
-/

namespace SiteTrial.Decimal

structure Layout where
  /-- The point stands at least here when digits are written positionally. -/
  leastPoint : Int
  /-- The point stands at most here when digits are written positionally. -/
  mostPoint : Int
  keepsPoint : Bool

/-- Positional from `0.0001` to below `10 ^ 16`, and `.0` kept. -/
def Layout.plain : Layout := ⟨-3, 16, true⟩

/-- Positional from `0.0001` to below `10 ^ 6`, and no `.0`. -/
def Layout.brief : Layout := ⟨-3, 6, false⟩

/-- A natural number in decimal with at least two digits. -/
def twoDigits (n : Nat) : List Char :=
  if n < 10 then '0' :: digitsOf n else digitsOf n

/-- An exponent: its sign and at least two digits. -/
def exponentChars (e : Int) : List Char :=
  'e' :: (if e < 0 then '-' else '+') :: twoDigits e.natAbs

/-- The characters of a number given by its digits. -/
def Layout.render (l : Layout) (d : Digits) : List Char :=
  let zeros (n : Int) : List Char := List.replicate n.toNat '0'
  let count : Int := d.digits.length
  if l.leastPoint ≤ d.point && d.point ≤ l.mostPoint then
    if d.point ≤ 0 then '0' :: '.' :: zeros (-d.point) ++ d.digits
    else if count ≤ d.point then
      d.digits ++ zeros (d.point - count) ++ (if l.keepsPoint then ['.', '0'] else [])
    else d.digits.take d.point.toNat ++ '.' :: d.digits.drop d.point.toNat
  else
    match d.digits with
    | [] => []
    | [c] => c :: exponentChars (d.point - 1)
    | c :: rest => c :: '.' :: rest ++ exponentChars (d.point - 1)

/-- A sign in front of a number's characters. -/
def withSign (negative : Bool) (cs : List Char) : List Char :=
  if negative then '-' :: cs else cs

/-- The characters of a double that is not finite. -/
def specialChars : Binary → List Char
  | .infinite negative => withSign negative ['i', 'n', 'f']
  | _ => ['n', 'a', 'n']

/-- The characters of a double: its shortest digits, with `.0` or an exponent. -/
def writtenChars (x : Float) : List Char :=
  match Binary.ofFloat x with
  | .finite negative m q => withSign negative (Layout.plain.render (shortest m q))
  | b => specialChars b

/-- The text of a double: its shortest digits, with `.0` or an exponent. -/
def written (x : Float) : String := String.ofList (writtenChars x)

/-- The text of a double with its sign, also when that is a plus. -/
def signed (x : Float) : String :=
  let cs := writtenChars x
  String.ofList (if cs.head? = some '-' then cs else '+' :: cs)

/-- The text of a double for people: six significant digits below a million, else no decimals. -/
def brief (x : Float) : String :=
  match Binary.ofFloat x with
  | .finite negative m q =>
    let (num, den) := Binary.fraction m q
    String.ofList <| withSign negative <|
      if num < 1000000 * den then Layout.brief.render (toPlaces 6 m q)
      else digitsOf (roundHalfEven num den)
  | b => String.ofList (specialChars b)

end SiteTrial.Decimal
