import SiteTrial.Failure
import SiteTrial.Text.Quoted
/-!
# Addresses of pages and resources

* `Address.ofText` : the scheme, the host and the path of an address, or why it cannot be taken apart;
* `isIpv4`, `isIpv6` : whether a host is a number of one of the two kinds;
* `checkHost` : a host in brackets must be a number of the newer kind, and no character of a host may
  stand for a mark that ends it.
-/

namespace SiteTrial

/-- The parts of an address. -/
structure Address where
  scheme : String
  host : List Char
  path : List Char

namespace Address

/-! ## Hosts that are numbers -/

/-- One of the four numbers of a host of the older kind. -/
def isOctet (cs : List Char) : Bool :=
  !cs.isEmpty && cs.all Char.isDigit && cs.length ≤ 3 && (cs == ['0'] || cs.head? != some '0')
    && cs.foldl (fun n c => 10 * n + (c.toNat - 48)) 0 ≤ 255

/-- The parts of characters between marks. -/
def splitAt (mark : Char) (cs : List Char) : List (List Char) :=
  match cs with
  | [] => [[]]
  | c :: rest =>
    let parts := splitAt mark rest
    if c = mark then [] :: parts
    else match parts with
      | [] => [[c]]
      | part :: others => (c :: part) :: others

/-- Four numbers between points. -/
def isIpv4 (cs : List Char) : Bool :=
  let parts := splitAt '.' cs
  parts.length == 4 && parts.all isOctet

/-- One of the eight groups of a host of the newer kind. -/
def isGroup (cs : List Char) : Bool := !cs.isEmpty && cs.length ≤ 4 && (Text.readHex? cs).isSome

/-- The last group written as four numbers counts for two groups. -/
def widen (parts : List (List Char)) : Option (List (List Char)) :=
  match parts.getLast? with
  | some last =>
    if last.contains '.' then
      if isIpv4 last then some (parts.dropLast ++ [['0'], ['0']]) else none
    else some parts
  | none => some parts

/-- Eight groups between colons, or fewer where two colons stand together once. -/
def areGroups (parts : List (List Char)) : Bool :=
  let inner := (parts.drop 1).dropLast
  match inner.findIdx? List.isEmpty with
  | none => parts.length == 8 && parts.all isGroup
  | some place =>
    let before := parts.take (place + 1)
    let behind := parts.drop (place + 2)
    let front := if before.head? == some [] then before.drop 1 else before
    let back := if behind.getLast? == some [] then behind.dropLast else behind
    parts.length ≤ 9 && inner.countP List.isEmpty == 1
      && (before.head? != some [] || front.isEmpty) && (behind.getLast? != some [] || back.isEmpty)
      && front.length + back.length ≤ 7 && front.all isGroup && back.all isGroup

/-- A host of the newer kind; behind a percent sign may stand the name of a zone. -/
def isIpv6 (cs : List Char) : Bool :=
  let number := cs.takeWhile (· ≠ '%')
  let zone := (cs.dropWhile (· ≠ '%')).drop 1
  let zoned := !cs.contains '%' || (!zone.isEmpty && !zone.contains '%')
  let parts := splitAt ':' number
  !cs.contains '/' && zoned && 3 ≤ parts.length &&
    match widen parts with
    | some groups => areGroups groups
    | none => false

/-- A host of a kind to come: a letter, a version, a point and anything. -/
def isFuture (cs : List Char) : Bool :=
  let version := (cs.drop 1).takeWhile (· ≠ '.')
  let rest := (cs.drop 1).dropWhile (· ≠ '.')
  !version.isEmpty && (Text.readHex? version).isSome && 2 ≤ rest.length

/-! ## Hosts -/

/-- Characters that stand for a mark between the parts of an address. -/
def disguisedMarks : List Nat := [
  0x2047, 0x2048, 0x2049, 0x2100, 0x2101, 0x2105, 0x2106, 0x2A74, 0xFE13, 0xFE16, 0xFE55, 0xFE56,
  0xFE5F, 0xFE6B, 0xFF03, 0xFF0F, 0xFF1A, 0xFF1F, 0xFF20]

/-- Whether what stands in brackets is a host. -/
def checkBracketed (cs : List Char) : Except Fault Unit :=
  if cs.head? == some 'v' then
    if isFuture cs then .ok () else .error (.badAddress "IPvFuture address is invalid")
  else if isIpv4 cs then .error (.badAddress "An IPv4 address cannot be in brackets")
  else if isIpv6 cs then .ok ()
  else .error (.badAddress
    (Text.quoted (String.ofList cs) ++ " does not appear to be an IPv4 or IPv6 address"))

/-- An address whose brackets are out of place. -/
def misplaced {α : Type} : Except Fault α := .error (.badAddress "Invalid IPv6 URL")

/-- What stands behind the last sign between an account and a host. -/
def withoutAccount (cs : List Char) : List Char := (cs.reverse.takeWhile (· ≠ '@')).reverse

/-- What should be a host in brackets: nothing stands in front of the brackets, and behind them at most
a colon and its text. Where brackets stand in the account alone, the host counts as well. -/
def bracketed (cs : List Char) : Except Fault (List Char) :=
  let place := withoutAccount cs
  if place.contains '[' then
    let inside := (place.dropWhile (· ≠ '[')).drop 1
    let behind := (inside.dropWhile (· ≠ ']')).drop 1
    if place.head? != some '[' || !(behind.isEmpty || behind.head? == some ':') then misplaced
    else .ok (inside.takeWhile (· ≠ ']'))
  else .ok (place.takeWhile (· ≠ ':'))

/-- Brackets come in pairs and hold a host. -/
def checkBrackets (cs : List Char) : Except Fault Unit :=
  if cs.contains '[' != cs.contains ']' then misplaced
  else if cs.contains '[' then do checkBracketed (← bracketed cs)
  else .ok ()

/-- No character of a host stands for a mark. -/
def checkMarks (cs : List Char) : Except Fault Unit :=
  if cs.any fun c => disguisedMarks.contains c.toNat then
    .error (.badAddress ("netloc '" ++ String.ofList cs
      ++ "' contains invalid characters under NFKC normalization"))
  else .ok ()

/-! ## Taking an address apart -/

/-- A character of a scheme. -/
def isSchemePart (c : Char) : Bool := c.isAlphanum || c == '+' || c == '-' || c == '.'

/-- The scheme in lower case, and what stands behind its colon. -/
def splitScheme (cs : List Char) : String × List Char :=
  let scheme := cs.takeWhile (· ≠ ':')
  match cs.dropWhile (· ≠ ':'), scheme with
  | ':' :: rest, first :: _ =>
    if first.isAlpha && scheme.all isSchemePart then (String.ofList (scheme.map Char.toLower), rest)
    else ("", cs)
  | _, _ => ("", cs)

/-- The host behind two slashes, and what stands behind it. -/
def splitHost : List Char → List Char × List Char
  | '/' :: '/' :: cs =>
    let ends := fun c => c == '/' || c == '?' || c == '#'
    (cs.takeWhile fun c => !ends c, cs.dropWhile fun c => !ends c)
  | cs => ([], cs)

/-- Schemes whose last name may be followed by a semicolon and details. -/
def detailedSchemes : List String := [
  "", "ftp", "hdl", "http", "https", "imap", "mms", "prospero", "rtsp", "rtspu", "sftp", "shttp",
  "sip", "sips", "tel"]

/-- A path without the details behind its last name. -/
def withoutDetails (cs : List Char) : List Char :=
  let front := (cs.reverse.dropWhile (· ≠ '/')).reverse
  let name := (cs.reverse.takeWhile (· ≠ '/')).reverse
  front ++ name.takeWhile (· ≠ ';')

/-- The parts of an address; blanks and controls in front and line ends within do not count. -/
def ofText (s : String) : Except Fault Address := do
  let cs := (s.toList.dropWhile fun c => c.toNat ≤ 32).filter fun c =>
    c ≠ '\t' && c ≠ '\r' && c ≠ '\n'
  let (scheme, rest) := splitScheme cs
  let (host, rest) := splitHost rest
  checkBrackets host
  let path := (rest.takeWhile (· ≠ '#')).takeWhile (· ≠ '?')
  checkMarks host
  return ⟨scheme, host, if detailedSchemes.contains scheme then withoutDetails path else path⟩

end Address

end SiteTrial
