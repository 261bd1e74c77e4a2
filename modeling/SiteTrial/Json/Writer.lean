import SiteTrial.Value.Shown
import SiteTrial.Text.Half
/-!
# Writing JSON

* `Json.line` : a value on one line, a blank behind each comma and colon;
* `Json.page` : a value over several lines, indented by two for each level.

Texts hold ASCII characters alone; what lies beyond is written by code units. Numbers that are not
finite are written as `NaN`, `Infinity` and `-Infinity`.
-/

namespace SiteTrial.Json

/-- A code unit by number. -/
def unitChars (n : Nat) : List Char := '\\' :: 'u' :: Text.hexChars 4 n

/-- A code point by its code units. -/
def pointChars (n : Nat) : List Char :=
  if n < 0x10000 then unitChars n
  else
    let n := n - 0x10000
    unitChars (0xD800 + n / 0x400) ++ unitChars (0xDC00 + n % 0x400)

/-- One character between quotes. -/
def charChars (c : Char) : List Char :=
  if c = '"' then ['\\', '"']
  else if c = '\\' then ['\\', '\\']
  else if c = '\n' then ['\\', 'n']
  else if c = '\r' then ['\\', 'r']
  else if c = '\t' then ['\\', 't']
  else if c = '\x08' then ['\\', 'b']
  else if c = '\x0c' then ['\\', 'f']
  else if 32 ≤ c.toNat ∧ c.toNat < 127 then [c]
  else pointChars c.toNat

/-- A piece of a text between quotes. -/
def pieceChars : List Char → List Char
  | [c] => charChars c
  | piece => pointChars (Text.pointOf piece)

/-- A text between quotes. -/
def textChars (s : String) : String :=
  String.ofList ('"' :: (Text.pieces s.toList).flatMap pieceChars ++ ['"'])

/-- A double, also one that is not finite. -/
def doubleText (x : Float) : String :=
  if x.isNaN then "NaN"
  else if x.isInf then (if x < 0.0 then "-Infinity" else "Infinity")
  else Decimal.written x

/-- A scalar without quotes, as a value or inside a key. -/
def bare : Scalar → String
  | .null => "null"
  | .bool b => if b then "true" else "false"
  | .int n => toString n
  | .double x => doubleText x
  | s => s.toText

/-- A scalar as a value. -/
def scalarText : Scalar → String
  | .null => bare .null
  | .bool b => bare (.bool b)
  | .int n => bare (.int n)
  | .double x => bare (.double x)
  | s => textChars s.toText

/-- A key, which is always a text. -/
def keyText (k : Scalar) : String := textChars (bare k)

mutual

def line : Value → String
  | .scalar s => scalarText s
  | .list items => "[" ++ ", ".intercalate (lineItems items) ++ "]"
  | .mapping fs => "\x7b" ++ ", ".intercalate (lineFields fs) ++ "\x7d"
  | .members ks => "[" ++ ", ".intercalate (ks.map scalarText) ++ "]"
  | .entry k v => "[" ++ line k ++ ", " ++ line v ++ "]"
  | .named _ v => line v
  | .again _ isMapping => Value.ellipsis isMapping

/-- The members of a list, each on one line. -/
def lineItems : List Value → List String
  | [] => []
  | v :: vs => line v :: lineItems vs

/-- The entries of a mapping, each on one line. -/
def lineFields : List (Scalar × Value) → List String
  | [] => []
  | (k, v) :: fs => (keyText k ++ ": " ++ line v) :: lineFields fs

end

/-- A line break and the indentation of a level. -/
def newline (level : Nat) : String := String.ofList ('\n' :: List.replicate (2 * level) ' ')

/-- Members between brackets, each on a line of its own. -/
def block (open' close : String) (level : Nat) (members : List String) : String :=
  if members.isEmpty then open' ++ close
  else open' ++ newline (level + 1) ++ ("," ++ newline (level + 1)).intercalate members
    ++ newline level ++ close

mutual

/-- A value over several lines, inside the given number of levels. -/
def pageAt (level : Nat) : Value → String
  | .scalar s => scalarText s
  | .list items => block "[" "]" level (pageItems (level + 1) items)
  | .mapping fs => block "\x7b" "\x7d" level (pageFields (level + 1) fs)
  | .members ks => block "[" "]" level (ks.map scalarText)
  | .entry k v => block "[" "]" level [pageAt (level + 1) k, pageAt (level + 1) v]
  | .named _ v => pageAt level v
  | .again _ isMapping => Value.ellipsis isMapping

/-- The members of a list over several lines. -/
def pageItems (level : Nat) : List Value → List String
  | [] => []
  | v :: vs => pageAt level v :: pageItems level vs

/-- The entries of a mapping over several lines. -/
def pageFields (level : Nat) : List (Scalar × Value) → List String
  | [] => []
  | (k, v) :: fs => (keyText k ++ ": " ++ pageAt level v) :: pageFields level fs

end

def page (v : Value) : String := pageAt 0 v

end SiteTrial.Json
