import SiteTrial.Value.Basic
import SiteTrial.Decimal.Numeral
import SiteTrial.Text.Hex
import SiteTrial.Text.Half
/-!
# JSON tokens

* `Token` : brackets, separators, texts and other values, with a token for what is none;
* `Token.ofChars` : the tokens of a text, cut off behind the first that is malformed.

Between tokens stand blanks; everything from a letter, digit, sign or point up to the next other
character is one word, so that a word is either a constant, a number or malformed. A word that begins
with an integer of too many digits is too long, whatever comes behind them.
-/

namespace SiteTrial.Json

/-- A piece of a JSON text. -/
inductive Token where
  | openList
  | closeList
  | openMapping
  | closeMapping
  | comma
  | colon
  | text (s : String)
  | value (v : Scalar)
  /-- An integer with more digits than are read. -/
  | tooLong
  | malformed
deriving DecidableEq

/-- What the characters read so far belong to; gathered characters are held last one first. -/
inductive Reading where
  | between
  | word (gathered : List Char)
  | text (gathered : List Char)
  | escape (gathered : List Char)
  /-- A code point by number, in a text that may have a high surrogate open. -/
  | code (gathered : List Char) (high : Option Nat) (digits : List Char)
  /-- Behind the first half of a pair of code units. -/
  | afterHigh (gathered : List Char) (high : Nat)
  | afterHighEscape (gathered : List Char) (high : Nat)

/-- Blanks between tokens. -/
def isGap (c : Char) : Bool := c == ' ' || c == '\n' || c == '\t' || c == '\r'

/-- Characters of constants and numbers. -/
def isWordPart (c : Char) : Bool := c.isAlphanum || c == '-' || c == '+' || c == '.'

/-- The digits in front, at least one, and the rest. -/
def digitsThen? (cs : List Char) : Option (List Char × List Char) :=
  let (ds, rest) := Decimal.spanDigits cs
  if ds.isEmpty then none else some (ds, rest)

/-- The digits before the point: a single zero or no leading zero. -/
def wholePart? (cs : List Char) : Option (List Char × List Char) :=
  match digitsThen? cs with
  | some (['0'], rest) => some (['0'], rest)
  | some ('0' :: _, _) => none
  | other => other

/-- The digits behind the point, none without a point. -/
def fraction? : List Char → Option (List Char × List Char)
  | '.' :: cs => digitsThen? cs
  | cs => some ([], cs)

/-- Whether what stands behind an integer makes a double of it: a point or an exponent with a digit. -/
def makesDouble : List Char → Bool
  | '.' :: c :: _ => c.isDigit
  | e :: rest => (e == 'e' || e == 'E') && (((Decimal.takeSign rest).2.head?).any Char.isDigit)
  | [] => false

/-- A double: an integer with what stands behind it. -/
def doubleToken (negative : Bool) (whole rest : List Char) : Token :=
  match fraction? rest with
  | none => .malformed
  | some (part, rest) =>
    let digits := (whole ++ part).map fun c => c.toNat - 48
    match Decimal.readExponent? rest with
    | none => .malformed
    | some e => .value (.double (Decimal.double negative (Decimal.ofDigits digits) (e - part.length)))

/-- A number: an integer, or a double if it has a point or an exponent. -/
def number (cs : List Char) : Token :=
  let (negative, cs) := match cs with
    | '-' :: rest => (true, rest)
    | cs => (false, cs)
  match wholePart? cs with
  | none => .malformed
  | some (whole, rest) =>
    if makesDouble rest then doubleToken negative whole rest
    else if whole.length > Decimal.maxIntegerDigits then .tooLong
    else if !rest.isEmpty then .malformed
    else
      let n : Int := Decimal.ofDigits (whole.map fun c => c.toNat - 48)
      .value (.int (if negative then -n else n))

/-- A constant or a number. -/
def word (cs : List Char) : Token :=
  if cs = "true".toList then .value (.bool true)
  else if cs = "false".toList then .value (.bool false)
  else if cs = "null".toList then .value .null
  else if cs = "NaN".toList then .value (.double Decimal.notANumber)
  else if cs = "Infinity".toList then .value (.double (Decimal.infinity false))
  else if cs = "-Infinity".toList then .value (.double (Decimal.infinity true))
  else number cs

/-- A token of one character, a blank giving none. -/
def mark? (c : Char) : Option Token :=
  if c = '[' then some .openList
  else if c = ']' then some .closeList
  else if c = '\x7b' then some .openMapping
  else if c = '\x7d' then some .closeMapping
  else if c = ',' then some .comma
  else if c = ':' then some .colon
  else none

/-- The character behind a backslash, in its short forms. -/
def shortEscape? (c : Char) : Option Char :=
  if c = '"' ∨ c = '\\' ∨ c = '/' then some c
  else if c = 'b' then some '\x08'
  else if c = 'f' then some '\x0c'
  else if c = 'n' then some '\n'
  else if c = 'r' then some '\r'
  else if c = 't' then some '\t'
  else none

/-- The text so far with a code point behind it. -/
def addPoint (gathered : List Char) (n : Nat) : List Char := (Text.ofPoint n).reverse ++ gathered

/-- The text so far with a code unit behind it; `high` is the unit before, if that is a half. -/
def addUnit (gathered : List Char) (high : Option Nat) (n : Nat) : Reading :=
  match high with
  | some h =>
    if Text.isLowHalf n then .text (addPoint gathered (Text.joinHalves h n))
    else if Text.isHighHalf n then .afterHigh (addPoint gathered h) n
    else .text (addPoint (addPoint gathered h) n)
  | none =>
    if Text.isHighHalf n then .afterHigh gathered n
    else .text (addPoint gathered n)

/-- What follows when a character is read, the tokens finished by it first; nothing when it cannot
stand here. -/
def Reading.step (r : Reading) (c : Char) : Option (List Token × Reading) :=
  match r with
  | .between =>
    if isGap c then some ([], .between)
    else if c = '"' then some ([], .text [])
    else if isWordPart c then some ([], .word [c])
    else (mark? c).map fun t => ([t], .between)
  | .word gathered =>
    if isWordPart c then some ([], .word (c :: gathered))
    else
      let done := Json.word gathered.reverse
      if isGap c then some ([done], .between)
      else if c = '"' then some ([done], .text [])
      else some ([done, (mark? c).getD .malformed], .between)
  | .text gathered => plain gathered
  | .escape gathered => escaped gathered none
  | .code gathered high digits =>
    if (Text.hexValue? c).isNone then none
    else if digits.length < 3 then some ([], .code gathered high (c :: digits))
    else (Text.readHex? (c :: digits).reverse).map fun n => ([], addUnit gathered high n)
  | .afterHigh gathered high =>
    if c = '\\' then some ([], .afterHighEscape gathered high)
    else plain (addPoint gathered high)
  | .afterHighEscape gathered high => escaped gathered (some high)
where
  /-- A character inside a text. -/
  plain (gathered : List Char) : Option (List Token × Reading) :=
    if c = '"' then some ([.text (String.ofList gathered.reverse)], .between)
    else if c = '\\' then some ([], .escape gathered)
    else if c.toNat < 32 then none
    else some ([], .text (c :: gathered))
  /-- A character behind a backslash. -/
  escaped (gathered : List Char) (high : Option Nat) : Option (List Token × Reading) :=
    if c = 'u' then some ([], .code gathered high [])
    else
      let before := high.elim gathered (addPoint gathered)
      (shortEscape? c).map fun d => ([], .text (d :: before))

namespace Token

/-- The tokens of the characters, given what was read before them. -/
def read : Reading → List Char → List Token
  | .between, [] => []
  | .word gathered, [] => [Json.word gathered.reverse]
  | _, [] => [.malformed]
  | r, c :: cs =>
    match r.step c with
    | none => [.malformed]
    | some (ts, next) => ts ++ read next cs

def ofChars (cs : List Char) : List Token := read .between cs

end Token

end SiteTrial.Json
