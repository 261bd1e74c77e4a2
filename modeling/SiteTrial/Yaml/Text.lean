import SiteTrial.Yaml.Cursor
import SiteTrial.Yaml.Token
import SiteTrial.Yaml.Problem
import SiteTrial.Text.Hex
import SiteTrial.Text.Half
/-!
# Texts in YAML

How the characters of a scalar are read, from the cursor on its first character.

* `plainText` : a text without quotes, over several lines if these are indented;
* `quotedText` : a text between single or double quotes;
* `blockText` : a text that keeps or folds its lines;
* `nameText`, `tagToken` : names of anchors and tags.

The loops take a number of rounds that exceeds the characters left.
-/

namespace SiteTrial.Yaml

/-- A text that breaks a rule of the format. -/
def bad {α : Type} : Except Problem α := .error .malformed

/-! ## Plain texts -/

/-- Whether a plain text ends before the character, the one behind it being given. -/
def endsPlain (inFlow : Bool) (ch after : Char) : Bool :=
  endsWord ch
    || (ch == ':' && (endsWord after || (inFlow && ",[]\x7b\x7d".toList.contains after)))
    || (inFlow && ",?[]\x7b\x7d".toList.contains ch)

/-- The characters of a plain text up to the next blank. -/
def plainChars (inFlow : Bool) : List Char → List Char
  | [] => []
  | ch :: rest => if endsPlain inFlow ch (rest.headD nul) then [] else ch :: plainChars inFlow rest

/-- Line ends and blanks inside a plain text: the line ends, and whether a document mark follows. -/
def plainBreaks : Nat → Cursor → List (List Char) → List (List Char) × Bool × Cursor
  | 0, c, breaks => (breaks, false, c)
  | n + 1, c, breaks =>
    if c.peek == ' ' then plainBreaks n c.next breaks
    else if isBreak c.peek then
      let (br, c) := c.lineBreak
      if c.atDocumentMark then (breaks, true, c) else plainBreaks n c (breaks ++ [br])
    else (breaks, false, c)

/-- What a line end and further line ends come to inside a folded text. -/
def foldedBreaks (first : List Char) (breaks : List (List Char)) : List Char :=
  (if first != ['\n'] then first else if breaks.isEmpty then [' '] else []) ++ breaks.flatten

/-- The space between two words of a plain text, none if the text ends here; a key may follow where
the space holds a line end. -/
def plainSpace (c : Cursor) : List Char × Bool × Cursor :=
  let (blanks, c) := c.takeWhile (· == ' ')
  if isBreak c.peek then
    let (first, c) := c.lineBreak
    if c.atDocumentMark then ([], true, c)
    else
      let (breaks, marked, c) := plainBreaks (c.rest.length + 1) c []
      if marked then ([], true, c) else (foldedBreaks first breaks, true, c)
  else (blanks, false, c)

/-- The words of a plain text: its characters, whether a key may follow, and the place behind. -/
def plainWords (inFlow : Bool) (indent : Nat) :
    Nat → Cursor → List Char → Bool → List Char × Bool × Cursor
  | 0, c, _, keys => ([], keys, c)
  | n + 1, c, space, keys =>
    let word := if c.peek == '#' then [] else plainChars inFlow c.rest
    if word.isEmpty then ([], keys, c)
    else
      let (next, broke, c') := plainSpace (c.skip word.length)
      let text := space ++ word
      if next.isEmpty || c'.peek == '#' || (!inFlow && c'.column < indent) then (text, broke, c')
      else
        let (more, keys, c) := plainWords inFlow indent n c' next broke
        (text ++ more, keys, c)

/-- A plain text: its characters, whether a key may follow, and the place behind. -/
def plainText (inFlow : Bool) (indent : Nat) (c : Cursor) : List Char × Bool × Cursor :=
  plainWords inFlow indent (c.rest.length + 1) c [] false

/-! ## Quoted texts -/

/-- The character behind a backslash, in its short forms. -/
def shortEscape? (c : Char) : Option Char :=
  [('0', '\x00'), ('a', '\x07'), ('b', '\x08'), ('t', '\t'), ('\t', '\t'), ('n', '\n'),
    ('v', '\x0b'), ('f', '\x0c'), ('r', '\r'), ('e', '\x1b'), (' ', ' '), ('"', '"'), ('\\', '\\'),
    ('/', '/'), ('N', '\x85'), ('_', '\xa0'), ('L', '\u2028'), ('P', '\u2029')].lookup c

/-- How many digits the code point behind a backslash has. -/
def codeWidth? (c : Char) : Option Nat := [('x', 2), ('u', 4), ('U', 8)].lookup c

/-- Line ends inside a quoted text; no document may begin there. -/
def quotedBreaks : Nat → Cursor → Except Problem (List Char × Cursor)
  | 0, c => .ok ([], c)
  | n + 1, c =>
    if c.atDocumentMark then bad
    else
      let c := c.dropWhile fun ch => ch == ' ' || ch == '\t'
      if isBreak c.peek then do
        let (br, c) := c.lineBreak
        let (more, c) ← quotedBreaks n c
        return (br ++ more, c)
      else .ok ([], c)

/-- A code point by number. -/
def codeEscape (width : Nat) (c : Cursor) : Except Problem (List Char × Cursor) :=
  let digits := c.rest.take width
  if digits.length < width then bad
  else match Text.readHex? digits with
    | none => bad
    | some n =>
      if n ≤ 0x10FFFF then .ok (Text.ofPoint n, c.skip width)
      else .error (if n < Nat.pow 2 31 then .badCodePoint else .hugeCodePoint)

/-- What a backslash and the characters behind it stand for. -/
def escaped (c : Cursor) : Except Problem (List Char × Cursor) :=
  match shortEscape? c.peek, codeWidth? c.peek with
  | some d, _ => .ok ([d], c.next)
  | none, some width => codeEscape width c.next
  | none, none =>
    if isBreak c.peek then quotedBreaks (c.rest.length + 1) c.lineBreak.2 else bad

/-- A part of a quoted text without blanks. -/
def quotedWord (double : Bool) : Nat → Cursor → Except Problem (List Char × Cursor)
  | 0, c => .ok ([], c)
  | n + 1, c =>
    let ch := c.peek
    if c.atEnd || endsWord ch then .ok ([], c)
    else if !double && ch == '\'' then
      if c.ahead 1 == '\'' then do
        let (more, c) ← quotedWord double n (c.skip 2)
        return ('\'' :: more, c)
      else .ok ([], c)
    else if double && ch == '"' then .ok ([], c)
    else if double && ch == '\\' then do
      let (here, c) ← escaped c.next
      let (more, c) ← quotedWord double n c
      return (here ++ more, c)
    else do
      let (more, c) ← quotedWord double n c.next
      return (ch :: more, c)

/-- The space between two words of a quoted text. -/
def quotedSpace (c : Cursor) : Except Problem (List Char × Cursor) :=
  let (blanks, c) := c.takeWhile fun ch => ch == ' ' || ch == '\t'
  if c.atEnd then bad
  else if isBreak c.peek then do
    let (first, c) := c.lineBreak
    let (breaks, c) ← quotedBreaks (c.rest.length + 1) c
    return (foldedBreaks first (if breaks.isEmpty then [] else [breaks]), c)
  else .ok (blanks, c)

/-- The words and spaces of a quoted text up to the quote at its end. -/
def quotedWords (double : Bool) : Nat → Cursor → Except Problem (List Char × Cursor)
  | 0, _ => bad
  | n + 1, c => do
    let (word, c) ← quotedWord double (c.rest.length + 1) c
    if c.peek == (if double then '"' else '\'') then return (word, c.next)
    let (space, c) ← quotedSpace c
    let (more, c) ← quotedWords double n c
    return (word ++ space ++ more, c)

/-- A quoted text, from the cursor on its first quote. -/
def quotedText (double : Bool) (c : Cursor) : Except Problem (List Char × Cursor) :=
  quotedWords double (c.rest.length + 1) c.next

/-! ## Block texts -/

/-- What becomes of the line ends at the end of a block text. -/
inductive Chomping where
  | clip
  | strip
  | keep
deriving DecidableEq

/-- The chomping that a character asks for. -/
def chomping? (ch : Char) : Option Chomping :=
  if ch == '+' then some .keep else if ch == '-' then some .strip else none

/-- The digit in front, which may not be zero. -/
def indentDigit (c : Cursor) : Except Problem (Option Nat × Cursor) :=
  if c.peek.isDigit then
    if c.peek == '0' then bad else .ok (some (c.peek.toNat - 48), c.next)
  else .ok (none, c)

/-- The chomping and the indentation that a block text asks for, in any order. -/
def blockHeader (c : Cursor) : Except Problem ((Chomping × Option Nat) × Cursor) :=
  match chomping? c.peek with
  | some chomping => do
    let (width, c) ← indentDigit c.next
    return ((chomping, width), c)
  | none => do
    let (width, c) ← indentDigit c
    match width, chomping? c.peek with
    | some _, some chomping => return ((chomping, width), c.next)
    | _, _ => return ((.clip, width), c)

/-- The rest of a line that may hold blanks and a comment. -/
def restOfLine (c : Cursor) : Except Problem Cursor :=
  let c := c.skipBlanks.skipComment
  if endsLine c.peek then .ok c.lineBreak.2 else bad

/-- Empty lines in front of a block text, and the deepest column among them and its first line. -/
def blockIndentation : Nat → Cursor → Nat → List Char × Nat × Cursor
  | 0, c, deepest => ([], deepest, c)
  | n + 1, c, deepest =>
    if c.peek == ' ' then
      let c := c.next
      blockIndentation n c (max deepest c.column)
    else if isBreak c.peek then
      let (br, c) := c.lineBreak
      let (more, deepest, c) := blockIndentation n c deepest
      (br ++ more, deepest, c)
    else ([], deepest, c)

/-- Empty lines inside a block text, and the place at its indentation in the next line. -/
def blockBreaks (indent : Nat) : Nat → Cursor → List Char × Cursor
  | 0, c => ([], c)
  | n + 1, c =>
    let c := c.indentTo indent
    if isBreak c.peek then
      let (br, c) := c.lineBreak
      let (more, c) := blockBreaks indent n c
      (br ++ more, c)
    else ([], c)

/-- The lines of a block text; answers the text without its end, the line end and empty lines there. -/
def blockLines (folded : Bool) (indent : Nat) :
    Nat → Cursor → List Char → List Char × List Char × List Char × Cursor
  | 0, c, breaks => ([], [], breaks, c)
  | n + 1, c, breaks =>
    let starts (c : Cursor) : Bool := c.column == indent && !c.atEnd
    let leads (c : Cursor) : Bool := !(c.peek == ' ' || c.peek == '\t')
    if !starts c then ([], [], breaks, c)
    else
      let leading := leads c
      let (line, c) := c.takeWhile fun ch => !isBreak ch
      let (br, c) := c.lineBreak
      let (after, c) := blockBreaks indent (c.rest.length + 1) c
      let text := breaks ++ line
      if starts c then
        let glue :=
          if folded && br == ['\n'] && leading && leads c then (if after.isEmpty then [' '] else [])
          else br
        let (more, last, tail, c) := blockLines folded indent n c after
        (text ++ glue ++ more, last, tail, c)
      else (text, br, after, c)

/-- A block text, from the cursor on its mark; `least` is the least indentation of its lines. -/
def blockText (folded : Bool) (least : Nat) (c : Cursor) : Except Problem (List Char × Cursor) := do
  let ((chomping, width), c) ← blockHeader c.next
  if !endsPart c.peek then bad
  let c ← restOfLine c
  let (breaks, indent, c) :=
    match width with
    | some w =>
      let indent := least + w - 1
      let (breaks, c) := blockBreaks indent (c.rest.length + 1) c
      (breaks, indent, c)
    | none =>
      let (breaks, deepest, c) := blockIndentation (c.rest.length + 1) c 0
      (breaks, max least deepest, c)
  let (text, last, tail, c) := blockLines folded indent (c.rest.length + 1) c breaks
  let ending := match chomping with
    | .strip => []
    | .clip => last
    | .keep => last ++ tail
  return (text ++ ending, c)

/-! ## Names -/

/-- The name of an anchor, from the cursor on its mark. -/
def nameText (c : Cursor) : Except Problem (String × Cursor) := do
  let (name, c) := c.next.takeWhile isNamePart
  if name.isEmpty || !(endsWord c.peek || "?:,]\x7d%@`".toList.contains c.peek) then bad
  return (String.ofList name, c)

/-- Characters of tags other than escapes. -/
def isTagPart (c : Char) : Bool :=
  c.isAlphanum || "-;/?:@&=+$,_.!~*'()[]".toList.contains c

/-- Bytes written as escapes in a tag. -/
def tagBytes : Nat → Cursor → Except Problem (List UInt8 × Cursor)
  | 0, c => .ok ([], c)
  | n + 1, c =>
    if c.peek != '%' then .ok ([], c)
    else match Text.hexValue? (c.ahead 1), Text.hexValue? (c.ahead 2) with
      | some a, some b => do
        let (more, c) ← tagBytes n (c.skip 3)
        return (UInt8.ofNat (16 * a + b) :: more, c)
      | _, _ => bad

/-- The characters of a tag behind its handle. -/
def tagChars : Nat → Cursor → Except Problem (List Char × Cursor)
  | 0, c => .ok ([], c)
  | n + 1, c =>
    if c.peek == '%' then do
      let (bytes, c) ← tagBytes (c.rest.length + 1) c
      match String.fromUTF8? ⟨bytes.toArray⟩ with
      | none => bad
      | some s =>
        let (more, c) ← tagChars n c
        return (s.toList ++ more, c)
    else
      let (cs, c) := c.takeWhile isTagPart
      if cs.isEmpty then .ok ([], c)
      else do
        let (more, c) ← tagChars n c
        return (cs ++ more, c)

/-- The characters of a tag behind its handle, at least one. -/
def tagSuffix (c : Cursor) : Except Problem (String × Cursor) := do
  let (cs, c) ← tagChars (c.rest.length + 1) c
  if cs.isEmpty then bad else return (String.ofList cs, c)

/-- A handle: a name between exclamation marks, or a single one before a blank. -/
def tagHandle (c : Cursor) : Except Problem (String × Cursor) :=
  if c.peek != '!' then bad
  else if c.ahead 1 == ' ' then .ok ("!", c.next)
  else
    let (name, c) := c.next.takeWhile isNamePart
    if c.peek == '!' then .ok ("!" ++ String.ofList name ++ "!", c.next) else bad

/-- Whether the word in front holds an exclamation mark behind its first character. -/
def hasHandle (c : Cursor) : Bool :=
  ((c.rest.drop 1).takeWhile fun ch => !endsPart ch).contains '!'

/-- A tag, from the cursor on its mark. -/
def tagToken (c : Cursor) : Except Problem (Token × Cursor) := do
  let ((handle, suffix), c) ←
    if c.ahead 1 == '<' then do
      let (suffix, c) ← tagSuffix (c.skip 2)
      if c.peek != '>' then bad
      pure ((none, suffix), c.next)
    else if endsWord (c.ahead 1) then pure ((none, "!"), c.next)
    else do
      let (handle, c) ← if hasHandle c then tagHandle c else pure ("!", c.next)
      let (suffix, c) ← tagSuffix c
      pure ((some handle, suffix), c)
  if !endsPart c.peek then bad
  return (.tag handle suffix, c)

end SiteTrial.Yaml
