import SiteTrial.Yaml.Text
import SiteTrial.Decimal.Numeral
/-!
# From text to tokens

* `SimpleKey` : a place where a key may have begun that no mark announced;
* `Scan` : the tokens found and not yet taken, the open indentations and the places of possible keys;
* `Scan.fetch` : finds one token, and the ends of blocks before it;
* `Scan.next`, `Scan.take` : looking at the next token and taking it;
* `Scan.ofText` : a scan at the start of a text.

A colon makes a key of what stands at the last possible place, on the same line and at most 1024
characters back; the mark of the key, and perhaps of a mapping, is then put in at that place. So no
token is given out while it may still become a key, and none is looked for before it is asked for:
which of two problems is met depends on it.
-/

namespace SiteTrial.Yaml

structure SimpleKey where
  /-- How many tokens stand before it. -/
  tokens : Nat
  /-- Whether nothing but a key can stand there. -/
  required : Bool
  index : Nat
  line : Nat
  column : Nat

/-- The state of a scan. -/
structure Scan where
  cursor : Cursor
  /-- The tokens found and not yet taken. -/
  queue : List Token := []
  /-- How many tokens have been taken. -/
  taken : Nat := 0
  /-- Whether the last token has been found. -/
  ended : Bool := false
  /-- Whether the text goes on behind what is left, with a character that no text may hold. -/
  spoilt : Bool := false
  /-- How many brackets are open. -/
  flowLevel : Nat := 0
  /-- The columns of the open blocks, the innermost first. -/
  indents : List Nat := []
  /-- Whether a key may begin here. -/
  keyAllowed : Bool := true
  /-- Possible keys by the number of brackets around them, the innermost first. -/
  possible : List (Nat × SimpleKey) := []

namespace Scan

/-- Whether brackets are open. -/
def inFlow (s : Scan) : Bool := s.flowLevel != 0

/-- The column of the innermost block, and one before the first where none is open. -/
def indent (s : Scan) : Int :=
  match s.indents with
  | [] => -1
  | column :: _ => column

/-- Adds a token. -/
def push (s : Scan) (t : Token) : Scan := { s with queue := s.queue ++ [t] }

/-- Sets the cursor. -/
def moveTo (s : Scan) (c : Cursor) : Scan := { s with cursor := c }

/-- Ends the blocks to the right of a column, outside brackets. -/
def unwind (s : Scan) (column : Int) : Scan :=
  if s.inFlow then s
  else
    let ended := s.indents.takeWhile fun i => column < Int.ofNat i
    { s with
      indents := s.indents.drop ended.length
      queue := s.queue ++ ended.map fun _ => Token.blockEnd }

/-- Opens a block at a column to the right of the innermost one. -/
def opensBlock (s : Scan) (column : Nat) : Bool := s.indent < column

/-- Gives up possible keys on other lines or too far back. -/
def dropStale (s : Scan) : Except Problem Scan :=
  let stale (k : SimpleKey) : Bool :=
    k.line != s.cursor.line || s.cursor.index - k.index > 1024
  if s.possible.any fun p => stale p.2 && p.2.required then bad
  else .ok { s with possible := s.possible.filter fun p => !stale p.2 }

/-- Gives up the possible key between the same brackets. -/
def dropKey (s : Scan) : Except Problem Scan :=
  if s.possible.any fun p => p.1 == s.flowLevel && p.2.required then bad
  else .ok { s with possible := s.possible.filter fun p => p.1 != s.flowLevel }

/-- Notes that a key may begin here. -/
def saveKey (s : Scan) : Except Problem Scan :=
  if s.keyAllowed then do
    let c := s.cursor
    let required := !s.inFlow && s.indent == (c.column : Int)
    let s ← s.dropKey
    let place := s.taken + s.queue.length
    return { s with
      possible := (s.flowLevel, ⟨place, required, c.index, c.line, c.column⟩) :: s.possible }
  else .ok s

/-- Sets whether a key may begin. -/
def allowKey (s : Scan) (b : Bool) : Scan := { s with keyAllowed := b }

/-- Passes blanks, comments and line ends; outside brackets a key may begin behind a line end. -/
def toNext : Nat → Scan → Scan
  | 0, s => s
  | n + 1, s =>
    let c := s.cursor.skipBlanks.skipComment
    if isBreak c.peek then toNext n ((s.moveTo c.lineBreak.2).allowKey (s.keyAllowed || !s.inFlow))
    else s.moveTo c

/-- Moves over a mark of some characters and adds its token. -/
def mark (s : Scan) (width : Nat) (t : Token) : Scan := (s.moveTo (s.cursor.skip width)).push t

/-- The start of a list or mapping in brackets. -/
def openFlow (s : Scan) (t : Token) : Except Problem Scan := do
  let s ← s.saveKey
  return ({ s with flowLevel := s.flowLevel + 1, keyAllowed := true }).mark 1 t

/-- The end of a list or mapping in brackets; one too many is an error. -/
def closeFlow (s : Scan) (t : Token) : Except Problem Scan := do
  if !s.inFlow then bad
  let s ← s.dropKey
  return ({ s with flowLevel := s.flowLevel - 1, keyAllowed := false }).mark 1 t

/-- A mark that may begin a block, which needs a place where a key may begin. -/
def beginBlock (s : Scan) (block : Token) : Except Problem Scan :=
  if s.inFlow then .ok s
  else if !s.keyAllowed then bad
  else
    let column := s.cursor.column
    if s.opensBlock column then .ok (({ s with indents := column :: s.indents }).push block)
    else .ok s

/-- The mark of a member of a list. -/
def blockEntry (s : Scan) : Except Problem Scan := do
  let s ← s.beginBlock .blockSequenceStart
  let s ← (s.allowKey true).dropKey
  return s.mark 1 .blockEntry

def keyMark (s : Scan) : Except Problem Scan := do
  let s ← s.beginBlock .blockMappingStart
  let s ← (s.allowKey (!s.inFlow)).dropKey
  return s.mark 1 .key

/-- The mark of a value: it makes a key of the last possible place, if there is one. -/
def valueMark (s : Scan) : Except Problem Scan :=
  match s.possible.lookup s.flowLevel with
  | some k =>
    let possible := s.possible.filter fun p => p.1 != s.flowLevel
    let opening := !s.inFlow && s.opensBlock k.column
    let marks := if opening then [Token.blockMappingStart, .key] else [.key]
    let place := k.tokens - s.taken
    .ok (({ s with
      possible := possible
      indents := if opening then k.column :: s.indents else s.indents
      queue := s.queue.take place ++ marks ++ s.queue.drop place
      keyAllowed := false }).mark 1 .value)
  | none => do
    let s ← s.beginBlock .blockMappingStart
    let s ← (s.allowKey (!s.inFlow)).dropKey
    return s.mark 1 .value

/-- A token that may be a key. -/
def possibleKey (s : Scan) (read : Cursor → Except Problem (Token × Cursor)) : Except Problem Scan := do
  let s ← s.saveKey
  let (t, c) ← read s.cursor
  return ((s.allowKey false).moveTo c).push t

/-- A text without quotes. -/
def plain (s : Scan) : Except Problem Scan := do
  let s ← s.saveKey
  let (text, keys, c) := plainText s.inFlow (s.indent + 1).toNat s.cursor
  return ((s.allowKey keys).moveTo c).push (.scalar (String.ofList text) true)

/-- A text that keeps or folds its lines. -/
def block (s : Scan) (folded : Bool) : Except Problem Scan := do
  let s ← (s.allowKey true).dropKey
  let (text, c) ← blockText folded (max 1 (s.indent + 1).toNat) s.cursor
  return (s.moveTo c).push (.scalar (String.ofList text) false)

/-- A mark between documents. -/
def documentMark (s : Scan) (t : Token) : Except Problem Scan := do
  let s ← (s.unwind (-1)).dropKey
  return (s.allowKey false).mark 3 t

/-- A row of digits. -/
def digits (c : Cursor) : Except Problem (Nat × Cursor) :=
  let (ds, c) := c.takeWhile Char.isDigit
  if ds.isEmpty then bad
  else if ds.length > Decimal.maxIntegerDigits then .error .integerTooLong
  else .ok (Decimal.ofDigits (ds.map fun d => d.toNat - 48), c)

/-- What a directive says, from the cursor behind its name. -/
def directiveValue (name : String) (c : Cursor) : Except Problem (Token × Cursor) :=
  if name = "YAML" then do
    let (major, c) ← digits c.skipBlanks
    if c.peek != '.' then bad
    let (_, c) ← digits c.next
    if !endsPart c.peek then bad
    return (.versionDirective major, c)
  else if name = "TAG" then do
    let (handle, c) ← tagHandle c.skipBlanks
    if c.peek != ' ' then bad
    let (expansion, c) ← tagSuffix c.skipBlanks
    if !endsPart c.peek then bad
    return (.tagDirective handle expansion, c)
  else .ok (.otherDirective, c.dropWhile fun ch => !isBreak ch)

def directive (s : Scan) : Except Problem Scan := do
  let s ← (s.unwind (-1)).dropKey
  let (name, c) := s.cursor.next.takeWhile isNamePart
  if name.isEmpty || !endsPart c.peek then bad
  let (t, c) ← directiveValue (String.ofList name) c
  let c ← restOfLine c
  return ((s.allowKey false).moveTo c).push t

/-- Whether a text without quotes may begin here. -/
def startsPlain (s : Scan) : Bool :=
  let ch := s.cursor.peek
  !(endsWord ch || "-?:,[]\x7b\x7d#&*!|>'\"%@`".toList.contains ch)
    || (!endsWord (s.cursor.ahead 1) && (ch == '-' || (!s.inFlow && (ch == '?' || ch == ':'))))

/-- A mark that counts only before a blank, or anywhere between brackets. -/
def marksHere (s : Scan) : Bool := s.inFlow || endsWord (s.cursor.ahead 1)

/-- The token at the cursor. -/
def token (s : Scan) : Except Problem Scan :=
  let c := s.cursor
  let ch := c.peek
  if ch == '%' && c.column == 0 then s.directive
  else if c.column == 0 && c.atDocumentMark then
    s.documentMark (if ch == '-' then .documentStart else .documentEnd)
  else if ch == '[' then s.openFlow .flowSequenceStart
  else if ch == '\x7b' then s.openFlow .flowMappingStart
  else if ch == ']' then s.closeFlow .flowSequenceEnd
  else if ch == '\x7d' then s.closeFlow .flowMappingEnd
  else if ch == ',' then do
    let s ← (s.allowKey true).dropKey
    return s.mark 1 .flowEntry
  else if ch == '-' && endsWord (c.ahead 1) then s.blockEntry
  else if ch == '?' && s.marksHere then s.keyMark
  else if ch == ':' && s.marksHere then s.valueMark
  else if ch == '*' then s.possibleKey fun c => (nameText c).map fun r => (.alias r.1, r.2)
  else if ch == '&' then s.possibleKey fun c => (nameText c).map fun r => (.anchor r.1, r.2)
  else if ch == '!' then s.possibleKey tagToken
  else if ch == '|' && !s.inFlow then s.block false
  else if ch == '>' && !s.inFlow then s.block true
  else if ch == '\'' || ch == '"' then
    s.possibleKey fun c =>
      (quotedText (ch == '"') c).map fun r => (.scalar (String.ofList r.1) false, r.2)
  else if s.startsPlain then s.plain
  else bad

/-- The last token. -/
def finish (s : Scan) : Except Problem Scan :=
  if s.spoilt then bad
  else do
    let s ← (s.unwind (-1)).dropKey
    return { s.push .streamEnd with ended := true, keyAllowed := false, possible := [] }

def fetch (s : Scan) : Except Problem Scan := do
  let s ← (toNext (s.cursor.rest.length + 1) s).dropStale
  let s := s.unwind s.cursor.column
  if s.cursor.atEnd then s.finish else s.token

/-- Whether the first token may still become a key. -/
def isOpen (s : Scan) : Bool := s.possible.any fun p => p.2.tokens == s.taken

/-- Finds tokens until the first of them is settled. -/
def settle : Nat → Scan → Except Problem Scan
  | 0, s => .ok s
  | n + 1, s =>
    if s.ended then .ok s
    else if s.queue.isEmpty then do settle n (← s.fetch)
    else do
      let s ← s.dropStale
      if s.isOpen then settle n (← s.fetch) else return s

def next (s : Scan) : Except Problem (Token × Scan) := do
  let settled := s.ended || (!s.queue.isEmpty && s.possible.isEmpty)
  let s ← if settled then pure s else settle (s.cursor.rest.length + 2) s
  return (s.queue.headD .streamEnd, s)

/-- The scan behind the next token. -/
def take (s : Scan) : Scan := { s with queue := s.queue.tail, taken := s.taken + 1 }

/-- A scan at the start of characters; a mark for the byte order in front does not count. -/
def ofChars (cs : List Char) (spoilt : Bool) : Scan :=
  let c : Cursor := { rest := cs }
  { cursor := if c.peek == '\ufeff' then c.next else c, spoilt := spoilt }

/-- How many characters are checked before the first is read. -/
def firstPortion : Nat := 8192

/-- How many characters are checked at a time later on. -/
def portion : Nat := 4096

/-- A scan at the start of a text. A text is checked in portions, so a character that no text may
hold spoils the portion it stands in and what lies behind. -/
def ofText (text : String) : Except Problem Scan :=
  let cs := text.toList
  match cs.findIdx? (!isAllowed ·) with
  | none => .ok (ofChars cs false)
  | some i =>
    if i < firstPortion then bad
    else .ok (ofChars (cs.take (firstPortion + (i - firstPortion) / portion * portion)) true)

end Scan

end SiteTrial.Yaml
