import SiteTrial.Text.Hex
import SiteTrial.Text.Half
/-!
# Percent signs in addresses

Bytes are written as a percent sign with two hexadecimal digits; characters stand for their bytes.

* `bytesOfPoint`, `ofBytes` : the bytes of a character and the text of bytes; bytes that are no character become U+FFFD;
* `percentDecode` : the text that an escaped text stands for;
* `percentEncode` : the escaped form of a text, some characters kept.
-/

namespace SiteTrial.Text

/-- The bytes of a code point. -/
def bytesOfPoint (n : Nat) : List Nat := (String.utf8EncodeChar (Char.ofNat n)).map UInt8.toNat

/-- Whether a byte continues a character. -/
def isContinuation (b : Nat) : Bool := 0x80 ≤ b && b < 0xC0

/-- Whether a byte can stand behind the first one of a character of three or four bytes. -/
def canFollow (first second : Nat) : Bool :=
  isContinuation second
    && (first != 0xE0 || 0xA0 ≤ second) && (first != 0xED || second < 0xA0)
    && (first != 0xF0 || 0x90 ≤ second) && (first != 0xF4 || second < 0x90)

/-- The code point of the low bits of bytes. -/
def pointOfBits (high : Nat) (rest : List Nat) : Nat :=
  rest.foldl (fun n b => 64 * n + b % 64) high

/-- What stands for bytes that are no character. -/
def replacement : Nat := 0xFFFD

/-- How many bytes the character has that a byte begins, zero if it begins none. -/
def lengthFrom (b : Nat) : Nat :=
  if b < 0x80 then 1 else if b < 0xC2 then 0 else if b < 0xE0 then 2 else if b < 0xF0 then 3
  else if b < 0xF5 then 4 else 0

/-- The first code point of bytes, and how many of them it takes. -/
def firstPoint (first : Nat) (rest : List Nat) : Nat × Nat :=
  match lengthFrom first, rest with
  | 1, _ => (first, 1)
  | 2, b :: _ => if isContinuation b then (pointOfBits (first % 32) [b], 2) else (replacement, 1)
  | 3, b :: c :: _ =>
    if !canFollow first b then (replacement, 1)
    else if isContinuation c then (pointOfBits (first % 16) [b, c], 3) else (replacement, 2)
  | 3, [b] => (replacement, if canFollow first b then 2 else 1)
  | 4, b :: rest =>
    if !canFollow first b then (replacement, 1)
    else match rest with
      | c :: d :: _ =>
        if !isContinuation c then (replacement, 2)
        else if isContinuation d then (pointOfBits (first % 8) [b, c, d], 4) else (replacement, 3)
      | [c] => (replacement, if isContinuation c then 3 else 2)
      | [] => (replacement, 2)
  | _, _ => (replacement, 1)

/-- The characters of at most so many bytes. -/
def ofBytesFor : Nat → List Nat → List Char
  | 0, _ => []
  | _, [] => []
  | n + 1, first :: rest =>
    let (point, length) := firstPoint first rest
    ofPoint point ++ ofBytesFor n (rest.drop (length - 1))

/-- The characters of bytes. -/
def ofBytes (bs : List Nat) : List Char := ofBytesFor bs.length bs

/-- The bytes that the pieces of an escaped text stand for. -/
def escapedBytes : List (List Char) → List Nat
  | ['%'] :: [a] :: [b] :: rest =>
    match hexValue? a, hexValue? b with
    | some high, some low => (16 * high + low) :: escapedBytes rest
    | _, _ => 0x25 :: escapedBytes ([a] :: [b] :: rest)
  | piece :: rest => bytesOfPoint (pointOf piece) ++ escapedBytes rest
  | [] => []

def percentDecode (s : String) : String := String.ofList (ofBytes (escapedBytes (pieces s.toList)))

/-- A byte behind a percent sign. -/
def percentByte (b : Nat) : List Char := '%' :: (hexChars 2 b).map Char.toUpper

def percentEncode (isKept : Char → Bool) (s : String) : String :=
  String.ofList <| (pieces s.toList).flatMap fun piece =>
    if piece.all isKept then piece else (bytesOfPoint (pointOf piece)).flatMap percentByte

end SiteTrial.Text
