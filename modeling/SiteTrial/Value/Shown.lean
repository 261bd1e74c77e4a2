import SiteTrial.Value.Basic
import SiteTrial.Decimal.Layout
import SiteTrial.Decimal.Numeral
import SiteTrial.Failure
/-!
# Values as text

* `Value.shown` : a value as messages show it, texts between quotes;
* `Value.toText` : a value where a text is wanted, texts as they are;
* `Value.kind` : the word for a value's kind in messages;
* `Value.toText?`, `Value.shown?` : the same texts, refused where an integer is too long to be written.
-/

namespace SiteTrial

namespace Scalar

/-- The word for a truth value. -/
def truthWord (b : Bool) : String := if b then "True" else "False"

/-- One byte between quotes. -/
def escapeByte (quote : Char) (b : Nat) : List Char :=
  if b = quote.toNat ∨ b = 92 then ['\\', Char.ofNat b]
  else if b = 10 then ['\\', 'n']
  else if b = 13 then ['\\', 'r']
  else if b = 9 then ['\\', 't']
  else if 32 ≤ b ∧ b < 127 then [Char.ofNat b]
  else '\\' :: 'x' :: Text.hexChars 2 b

/-- Bytes between quotes, marked by a letter. -/
def bytesShown (bs : List Nat) : String :=
  let q := Text.quoteFor (bs.map Char.ofNat)
  String.ofList ('b' :: q :: bs.flatMap (escapeByte q) ++ [q])

def toText : Scalar → String
  | .null => "None"
  | .bool b => truthWord b
  | .int n => toString n
  | .double x => Decimal.written x
  | .text s => s
  | .date d => d.text
  | .moment m => m.text
  | .bytes bs => bytesShown bs

/-- Whether a scalar can be written: an integer with too many digits cannot. -/
def isWritable : Scalar → Bool
  | .int n => n.natAbs < Nat.pow 10 Decimal.maxIntegerDigits
  | _ => true

/-- A scalar as messages show it. -/
def shown : Scalar → String
  | .text s => Text.quoted s
  | .date d => d.shown
  | .moment m => m.shown
  | s => s.toText

def kind : Scalar → String
  | .null => "NoneType"
  | .bool _ => "bool"
  | .int _ => "int"
  | .double _ => "float"
  | .text _ => "str"
  | .date _ => "datetime.date"
  | .moment _ => "datetime.datetime"
  | .bytes _ => "bytes"

end Scalar

namespace Value

/-- Whether a value is a mapping. -/
def isMapping : Value → Bool
  | .mapping _ => true
  | .named _ v => v.isMapping
  | .again _ isMapping => isMapping
  | _ => false

/-- What is shown for a list or mapping inside itself. -/
def ellipsis (isMapping : Bool) : String := if isMapping then "\x7b...\x7d" else "[...]"

mutual

/-- A value as messages show it, inside the values of some names. -/
def shownIn (names : List Nat) : Value → String
  | .scalar s => s.shown
  | .list items => "[" ++ ", ".intercalate (shownItems names items) ++ "]"
  | .mapping fs => "\x7b" ++ ", ".intercalate (shownFields names fs) ++ "\x7d"
  | .members [] => "set()"
  | .members ks => "\x7b" ++ ", ".intercalate (ks.map Scalar.shown) ++ "\x7d"
  | .entry k v => "(" ++ k.shownIn names ++ ", " ++ v.shownIn names ++ ")"
  | .named n v => if names.contains n then ellipsis v.isMapping else v.shownIn (n :: names)
  | .again _ isMapping => ellipsis isMapping

/-- The members of a list as messages show them. -/
def shownItems (names : List Nat) : List Value → List String
  | [] => []
  | v :: vs => v.shownIn names :: shownItems names vs

/-- The entries of a mapping as messages show them. -/
def shownFields (names : List Nat) : List (Scalar × Value) → List String
  | [] => []
  | (k, v) :: fs => (k.shown ++ ": " ++ v.shownIn names) :: shownFields names fs

end

def shown (v : Value) : String := v.shownIn []

def toText : Value → String
  | .scalar s => s.toText
  | v => v.shown

def kind : Value → String
  | .scalar s => s.kind
  | .list _ => "list"
  | .mapping _ => "dict"
  | .members _ => "set"
  | .entry _ _ => "tuple"
  | .named _ v => v.kind
  | .again _ isMapping => if isMapping then "dict" else "list"

/-! ## What is too long to be written -/

mutual

/-- Whether every integer in a value has few enough digits to be written. -/
def isWritable : Value → Bool
  | .scalar s => s.isWritable
  | .list items => areWritable items
  | .mapping fs => fieldsWritable fs
  | .members ks => ks.all Scalar.isWritable
  | .entry k v => k.isWritable && v.isWritable
  | .named _ v => v.isWritable
  | .again _ _ => true

/-- Whether every integer in the members of a list can be written. -/
def areWritable : List Value → Bool
  | [] => true
  | v :: vs => v.isWritable && areWritable vs

/-- Whether every integer in the entries of a mapping can be written. -/
def fieldsWritable : List (Scalar × Value) → Bool
  | [] => true
  | (k, v) :: fs => k.isWritable && v.isWritable && fieldsWritable fs

end

/-- The text of a value, unless an integer in it is too long. -/
def toText? (v : Value) : Except Fault String :=
  if v.isWritable then .ok v.toText else .error .integerTooLong

/-- A value as messages show it, unless an integer in it is too long. -/
def shown? (v : Value) : Except Fault String :=
  if v.isWritable then .ok v.shown else .error .integerTooLong

end Value

end SiteTrial
