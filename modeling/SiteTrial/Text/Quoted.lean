import SiteTrial.Text.Half
import SiteTrial.Text.Hex
import SiteTrial.Text.Printable
/-!
# Quoted text

A text between quotes, with everything escaped that a reader could not see or could misread.

* `quoteFor` : single quotes, unless the text holds one and no double quote;
* `escape` : how a piece of the text is shown, mostly one character;
* `quoted` : the whole;
* `numbered` : a text without quotes, with halves of pairs of code units by number.
-/

namespace SiteTrial.Text

/-- The quote around a text: a single one, unless only double quotes avoid an escape. -/
def quoteFor (cs : List Char) : Char :=
  if cs.contains '\'' && !cs.contains '"' then '"' else '\''

/-- A code point by number, in the shortest of the three forms that holds it. -/
def escapeCode (n : Nat) : List Char :=
  if n < 0x100 then '\\' :: 'x' :: hexChars 2 n
  else if n < 0x10000 then '\\' :: 'u' :: hexChars 4 n
  else '\\' :: 'U' :: hexChars 8 n

/-- How one character is shown between the given quotes. -/
def escapeChar (quote c : Char) : List Char :=
  if c = quote ∨ c = '\\' then ['\\', c]
  else if c = '\n' then ['\\', 'n']
  else if c = '\r' then ['\\', 'r']
  else if c = '\t' then ['\\', 't']
  else if isPrintable c then [c]
  else escapeCode c.toNat

/-- How a piece of a text is shown between the given quotes. -/
def escape (quote : Char) : List Char → List Char
  | [c] => escapeChar quote c
  | piece => escapeCode (pointOf piece)

/-- The characters of a text between quotes. -/
def quotedChars (cs : List Char) : List Char :=
  let q := quoteFor cs
  q :: (pieces cs).flatMap (escape q) ++ [q]

/-- A text between quotes. -/
def quoted (s : String) : String := String.ofList (quotedChars s.toList)

def numbered (s : String) : String :=
  String.ofList <| (pieces s.toList).flatMap fun piece =>
    if isHalf (pointOf piece) then escapeCode (pointOf piece) else piece

end SiteTrial.Text
