/-!
# Hexadecimal digits

* `hexChars width n` : at least `width` lower case digits;
* `hexValue?` : the value of a digit of either case;
* `readHex?` : the value of a row of digits.
-/

namespace SiteTrial.Text

/-- A natural number in lower case hexadecimal with at least `width` digits. -/
def hexChars (width n : Nat) : List Char :=
  let ds := Nat.toDigits 16 n
  List.replicate (width - ds.length) '0' ++ ds

/-- The value of a hexadecimal digit. -/
def hexValue? (c : Char) : Option Nat :=
  if c.isDigit then some (c.toNat - 48)
  else if 'a' ≤ c && c ≤ 'f' then some (c.toNat - 87)
  else if 'A' ≤ c && c ≤ 'F' then some (c.toNat - 55)
  else none

/-- The value of a row of hexadecimal digits, if there are no other characters. -/
def readHex? (cs : List Char) : Option Nat :=
  (cs.mapM hexValue?).map fun vs => vs.foldl (fun n v => 16 * n + v) 0

end SiteTrial.Text
