import SiteTrial.Value.Basic
import SiteTrial.Decimal.Numeral
import SiteTrial.Yaml.Problem
import SiteTrial.Text.Casing
/-!
# What a plain text means

* `Tag` : the kinds of values a node can be of;
* `Tag.ofPlain` : the kind of a text without quotes, told from its form;
* `readTruth`, `readInteger`, `readNumber`, `readMoment`, `readBytes` : the value of a text of a known
  kind.
-/

namespace SiteTrial.Yaml

inductive Tag where
  | null
  | bool
  | int
  | float
  | binary
  | timestamp
  | omap
  | pairs
  | set
  | str
  | seq
  | map
  | merge
  | value
  /-- A kind that no value has. -/
  | unknown
deriving Repr, DecidableEq

namespace Tag

/-- The kind that a full tag names. -/
def ofName (name : String) : Tag :=
  match name.dropPrefix? "tag:yaml.org,2002:" with
  | none => .unknown
  | some short =>
    ([("null", Tag.null), ("bool", .bool), ("int", .int), ("float", .float), ("binary", .binary),
      ("timestamp", .timestamp), ("omap", .omap), ("pairs", .pairs), ("set", .set), ("str", .str),
      ("seq", .seq), ("map", .map), ("merge", .merge), ("value", .value)].lookup
        short.toString).getD .unknown

end Tag

/-! ## Forms -/

/-- A text without a sign in front. -/
def unsigned (cs : List Char) : List Char := (Decimal.takeSign cs).2

/-- A digit or an underscore. -/
def isGrouped (c : Char) : Bool := c.isDigit || c == '_'

/-- A row of digits and underscores that begins with a digit, and the rest. -/
def grouped? (cs : List Char) : Option (List Char × List Char) :=
  match cs with
  | c :: _ => if c.isDigit then some (cs.takeWhile isGrouped, cs.dropWhile isGrouped) else none
  | [] => none

/-- An exponent with its sign, or nothing. -/
def isExponent : List Char → Bool
  | [] => true
  | e :: sign :: ds =>
    (e == 'e' || e == 'E') && (sign == '-' || sign == '+') && !ds.isEmpty && ds.all Char.isDigit
  | _ => false

/-- Parts of sixty: each a colon and one digit, or two of which the first is at most five. -/
def sixtieths : List Char → Option (List Char)
  | ':' :: a :: b :: rest =>
    if a.isDigit && b.isDigit then
      if a ≤ '5' then (if rest.head? = some ':' then sixtieths rest else some rest) else none
    else if a.isDigit then (if b = ':' then sixtieths (b :: rest) else some (b :: rest))
    else none
  | [':', a] => if a.isDigit then some [] else none
  | _ => none

/-- The form of a number with a point. -/
def isFloatForm (cs : List Char) : Bool :=
  let body := unsigned cs
  let pointed := match grouped? body with
    | some (_, '.' :: rest) => isExponent (rest.dropWhile isGrouped)
    | some (_, rest) =>
      match sixtieths rest with
      | some ('.' :: rest) => rest.all isGrouped
      | _ => false
    | none => false
  let leading := match cs with
    | '.' :: rest =>
      match grouped? rest with
      | some (_, rest) => isExponent rest
      | none => false
    | _ => false
  pointed || leading || [".inf", ".Inf", ".INF"].contains (String.ofList body)
    || [".nan", ".NaN", ".NAN"].contains (String.ofList cs)

/-- The form of an integer: binary, octal, decimal, hexadecimal or in parts of sixty. -/
def isIntForm (cs : List Char) : Bool :=
  match unsigned cs with
  | ['0'] => true
  | '0' :: 'b' :: ds => !ds.isEmpty && ds.all fun c => c == '0' || c == '1' || c == '_'
  | '0' :: 'x' :: ds => !ds.isEmpty && ds.all fun c => (Text.hexValue? c).isSome || c == '_'
  | '0' :: ds => ds.all fun c => ('0' ≤ c && c ≤ '7') || c == '_'
  | body =>
    match grouped? body with
    | some (_, []) => true
    | some (_, rest) => sixtieths rest == some []
    | none => false

/-- A day and perhaps a time, as numbers; `offset` is in minutes. -/
structure MomentForm where
  year : Nat
  month : Nat
  day : Nat
  time : Option (Nat × Nat × Nat × Nat × Option Int) := none

/-- Between `least` and `most` digits and the rest. -/
def digitRow? (least most : Nat) (cs : List Char) : Option (Nat × List Char) :=
  let ds := (cs.take most).takeWhile Char.isDigit
  if ds.length < least then none
  else some (Decimal.ofDigits (ds.map fun c => c.toNat - 48), cs.drop ds.length)

/-- The rest behind a character. -/
def expect? (c : Char) : List Char → Option (List Char)
  | d :: rest => if d = c then some rest else none
  | [] => none

/-- Millionths of a second behind a point; further digits do not count. -/
def micros (ds : List Char) : Nat :=
  let six := ds.take 6
  Decimal.ofDigits ((six ++ List.replicate (6 - six.length) '0').map fun c => c.toNat - 48)

/-- The distance from universal time at the end of a moment. -/
def offset? (cs : List Char) : Option (Option Int) :=
  match cs.dropWhile fun c => c == ' ' || c == '\t' with
  | [] => if cs.isEmpty then some none else none
  | ['Z'] => some (some 0)
  | sign :: rest =>
    if sign == '-' || sign == '+' then do
      let (hours, rest) ← digitRow? 1 2 rest
      let (minutes, rest) ← match rest with
        | ':' :: rest => digitRow? 2 2 rest
        | rest => some (0, rest)
      if !rest.isEmpty then none
      let m : Int := hours * 60 + minutes
      return some (if sign == '-' then -m else m)
    else none

/-- A time of day at the end of a moment. -/
def time? (cs : List Char) : Option (Nat × Nat × Nat × Nat × Option Int) := do
  let cs ← match cs with
    | 'T' :: rest => some rest
    | 't' :: rest => some rest
    | c :: rest => if c == ' ' || c == '\t' then
        some (rest.dropWhile fun c => c == ' ' || c == '\t') else none
    | [] => none
  let (hour, cs) ← digitRow? 1 2 cs
  let (minute, cs) ← digitRow? 2 2 (← expect? ':' cs)
  let (second, cs) ← digitRow? 2 2 (← expect? ':' cs)
  let (fraction, cs) := match cs with
    | '.' :: rest => (rest.takeWhile Char.isDigit, rest.dropWhile Char.isDigit)
    | cs => ([], cs)
  let offset ← offset? cs
  return (hour, minute, second, micros fraction, offset)

/-- The form of a day or a moment. -/
def momentForm? (cs : List Char) : Option MomentForm := do
  let (year, rest) ← digitRow? 4 4 cs
  let (month, rest) ← digitRow? 1 2 (← expect? '-' rest)
  let (day, rest) ← digitRow? 1 2 (← expect? '-' rest)
  if rest.isEmpty then return { year := year, month := month, day := day }
  else
    let time ← time? rest
    return { year := year, month := month, day := day, time := some time }

/-- A form that shows a moment where none is announced: a day alone then has two digits for month
and day. -/
def isMomentForm (cs : List Char) : Bool :=
  match momentForm? cs with
  | some form => form.time.isSome || cs.length == 10
  | none => false

/-- Characters without a line feed at their end. -/
def withoutLineEnd (cs : List Char) : List Char :=
  if cs.getLast? = some '\n' then cs.dropLast else cs

namespace Tag

/-- Words for truth values. -/
def truthWords : List (String × Bool) :=
  [("yes", true), ("no", false), ("true", true), ("false", false), ("on", true), ("off", false)]

/-- The three ways to write a word: small, capital at the start, and all capitals. -/
def spellings (w : String) : List String := [w, w.capitalize, Text.upper w]

/-- The kind of a text without quotes, told from its form; a line feed at its end does not count. -/
def ofPlain (s : String) : Tag :=
  let cs := withoutLineEnd s.toList
  let word := String.ofList cs
  if (truthWords.flatMap fun w => spellings w.1).contains word then .bool
  else if isFloatForm cs then .float
  else if isIntForm cs then .int
  else if word = "<<" then .merge
  else if s = "" ∨ word = "~" ∨ (spellings "null").contains word then .null
  else if isMomentForm cs then .timestamp
  else if word = "=" then .value
  else if ["!", "&", "*"].contains word then .unknown
  else .str

end Tag

/-! ## Values -/

/-- A truth value. -/
def readTruth (s : String) : Except Problem Bool :=
  match Tag.truthWords.lookup (Text.lower s) with
  | some b => .ok b
  | none => .error .badTruth

/-- The texts between colons. -/
def colonParts (s : String) : List String := s.splitOn ":"

/-- A number that was read, or the problem that there is none. -/
def readOr {α : Type} : Option α → Except Problem α
  | some n => .ok n
  | none => .error .badNumber

/-- An integer without sign and underscores: the marks in front tell its base, and colons stand between
parts of sixty. -/
def readUnsigned (cs : List Char) : Except Problem Int :=
  match cs with
  | [] => .error .emptyNumber
  | ['0'] => .ok 0
  | '0' :: 'b' :: ds => readOr (Decimal.readIntIn? 2 (String.ofList ds))
  | '0' :: 'x' :: ds => readOr (Decimal.readIntIn? 16 (String.ofList ds))
  | '0' :: _ => readOr (Decimal.readIntIn? 8 (String.ofList cs))
  | cs =>
    let s := String.ofList cs
    if cs.contains ':' then do
      let parts ← (colonParts s).mapM fun part => readOr (Decimal.readInt? part)
      return parts.foldl (fun n d => 60 * n + d) 0
    else readOr (Decimal.readInt? s)

def readInteger (s : String) : Except Problem Int := do
  let (negative, cs) := Decimal.takeSign (s.toList.filter (· ≠ '_'))
  let n ← readUnsigned cs
  return if negative then -n else n

/-- Numbers in parts of sixty, the last one first. -/
def sumSixtieths : List Float → (base : Nat) → Float → Except Problem Float
  | [], _, sum => .ok sum
  | x :: xs, base, sum =>
    let weight := Float.ofNat base
    if weight.isFinite then sumSixtieths xs (60 * base) (sum + x * weight)
    else .error .numberTooLarge

/-- A number with a point, infinite or undefined. -/
def readNumber (s : String) : Except Problem Float := do
  let cs := (Text.lower (String.ofList (s.toList.filter (· ≠ '_')))).toList
  if cs.isEmpty then throw .emptyNumber
  let (negative, cs) := Decimal.takeSign cs
  let s := String.ofList cs
  let x ←
    if s = ".inf" then pure (Decimal.infinity false)
    else if s = ".nan" then pure Decimal.notANumber
    else if cs.contains ':' then do
      let parts ← (colonParts s).mapM fun part => readOr (Decimal.readDouble? part)
      sumSixtieths parts.reverse 1 0.0
    else readOr (Decimal.readDouble? s)
  return if negative then -x else x

/-- A day or a moment that exists; a line feed at the end does not count. -/
def readMoment (s : String) : Except Problem Scalar := do
  let some form := momentForm? (withoutLineEnd s.toList) | throw .notAMoment
  let made : Option Scalar := do
    let date ← Date.make? form.year form.month form.day
    match form.time with
    | none => return .date date
    | some (hour, minute, second, micros, offset) =>
      return .moment (← Moment.make? date hour minute second micros offset)
  match made with
  | some m => return m
  | none => throw .badMoment

/-- The value of a digit of base 64. -/
def sixtyFourValue? (c : Char) : Option Nat :=
  if 'A' ≤ c && c ≤ 'Z' then some (c.toNat - 65)
  else if 'a' ≤ c && c ≤ 'z' then some (c.toNat - 71)
  else if c.isDigit then some (c.toNat + 4)
  else if c = '+' then some 62
  else if c = '/' then some 63
  else none

/-- The digits of base 64 among some characters. The filling behind at least two digits of four ends
them once the four are complete; all other characters, and filling elsewhere, do not count. -/
def sixtyFourDigits : List Char → (place fill : Nat) → List Nat × Bool
  | [], place, _ => ([], place == 0)
  | c :: cs, place, fill =>
    match sixtyFourValue? c with
    | some d =>
      let (ds, complete) := sixtyFourDigits cs ((place + 1) % 4) 0
      (d :: ds, complete)
    | none =>
      if c ≠ '=' then sixtyFourDigits cs place fill
      else if place < 2 then sixtyFourDigits cs place fill
      else if 4 ≤ place + fill + 1 then ([], true)
      else sixtyFourDigits cs place (fill + 1)

/-- The bytes of digits of base 64, four digits making three bytes. -/
def bytesOf : List Nat → List Nat
  | a :: b :: c :: d :: rest =>
    (4 * a + b / 16) :: (b % 16 * 16 + c / 4) :: (c % 4 * 64 + d) :: bytesOf rest
  | [a, b, c] => [4 * a + b / 16, b % 16 * 16 + c / 4]
  | [a, b] => [4 * a + b / 16]
  | _ => []

/-- Bytes in base 64. -/
def readBytes (s : String) : Except Problem (List Nat) :=
  let (digits, complete) := sixtyFourDigits s.toList 0 0
  if s.toList.all (·.toNat < 128) && complete then .ok (bytesOf digits) else .error .malformed

/-- The value of a scalar of a kind. -/
def scalarValue (t : Tag) (text : String) : Except Problem Scalar :=
  match t with
  | .null => .ok .null
  | .bool => (readTruth text).map .bool
  | .int => (readInteger text).map .int
  | .float => (readNumber text).map .double
  | .binary => (readBytes text).map .bytes
  | .timestamp => readMoment text
  | .str => .ok (.text text)
  | _ => .error .malformed

end SiteTrial.Yaml
