/-!
# A place in a YAML text

* `Cursor` : what is left of a text, with the place in it;
* `Cursor.peek`, `Cursor.skip` : looking ahead and moving on; behind the end stands a null character,
  which no text holds;
* `Cursor.takeWhile`, `Cursor.lineBreak` : moving over a row of characters and over a line end;
* `isBreak`, `endsWord` : the characters that end lines and words.
-/

namespace SiteTrial.Yaml

/-- What stands behind the end of every text. -/
def nul : Char := '\x00'

/-- Characters that end a line. -/
def isBreak (c : Char) : Bool :=
  c == '\n' || c == '\r' || c == '\x85' || c == '\u2028' || c == '\u2029'

def endsLine (c : Char) : Bool := c == nul || isBreak c

/-- A blank, a line end or the end of the text. -/
def endsPart (c : Char) : Bool := c == ' ' || endsLine c

/-- A blank, a tabulator, a line end or the end of the text. -/
def endsWord (c : Char) : Bool := c == '\t' || endsPart c

/-- Characters of anchors, handles and directive names. -/
def isNamePart (c : Char) : Bool := c.isAlphanum || c == '-' || c == '_'

/-- Characters that a text may hold at all. -/
def isAllowed (c : Char) : Bool :=
  c == '\t' || c == '\n' || c == '\r' || c == '\x85'
    || (0x20 ≤ c.toNat && c.toNat ≤ 0x7E) || (0xA0 ≤ c.toNat && c.toNat ≤ 0xFFFD)
    || 0x10000 ≤ c.toNat

structure Cursor where
  rest : List Char
  index : Nat := 0
  line : Nat := 0
  column : Nat := 0

namespace Cursor

/-- The character `k` places ahead. -/
def ahead (c : Cursor) (k : Nat) : Char := (c.rest[k]?).getD nul

/-- The character at the cursor. -/
def peek (c : Cursor) : Char := c.rest.headD nul

/-- Whether nothing is left. -/
def atEnd (c : Cursor) : Bool := c.rest.isEmpty

/-- Moves over one character. -/
def next (c : Cursor) : Cursor :=
  match c.rest with
  | [] => c
  | ch :: rest =>
    if isBreak ch && !(ch == '\r' && rest.head? == some '\n') then
      ⟨rest, c.index + 1, c.line + 1, 0⟩
    else if ch == '\ufeff' then ⟨rest, c.index + 1, c.line, c.column⟩
    else ⟨rest, c.index + 1, c.line, c.column + 1⟩

/-- Moves over several characters. -/
def skip (c : Cursor) : Nat → Cursor
  | 0 => c
  | n + 1 => c.next.skip n

/-- The characters in front that pass a test, and the place behind them. -/
def takeWhile (c : Cursor) (p : Char → Bool) : List Char × Cursor :=
  let cs := c.rest.takeWhile p
  (cs, c.skip cs.length)

/-- The place behind the characters in front that pass a test. -/
def dropWhile (c : Cursor) (p : Char → Bool) : Cursor := (c.takeWhile p).2

/-- The place behind the blanks in front. -/
def skipBlanks (c : Cursor) : Cursor := c.dropWhile (· == ' ')

/-- The place behind the blanks in front, as long as the column is below a limit. -/
def indentTo (c : Cursor) (limit : Nat) : Cursor :=
  let blanks := (c.rest.takeWhile (· == ' ')).length
  c.skip (min blanks (limit - c.column))

/-- The place behind a comment, if one stands here. -/
def skipComment (c : Cursor) : Cursor :=
  if c.peek == '#' then c.dropWhile (fun ch => !isBreak ch) else c

/-- A line end in its plain form and the place behind it; nothing if none stands here. -/
def lineBreak (c : Cursor) : List Char × Cursor :=
  match c.rest with
  | '\r' :: '\n' :: _ => (['\n'], c.skip 2)
  | ch :: _ =>
    if ch == '\n' || ch == '\r' || ch == '\x85' then (['\n'], c.next)
    else if isBreak ch then ([ch], c.next)
    else ([], c)
  | [] => ([], c)

/-- Whether a mark between documents stands here. -/
def atDocumentMark (c : Cursor) : Bool :=
  let mark := c.rest.take 3
  (mark == ['-', '-', '-'] || mark == ['.', '.', '.']) && endsWord (c.ahead 3)

end Cursor

end SiteTrial.Yaml
