import PageMarkup.Fault
import PageMarkup.Identifier.Words
import PageMarkup.Text.LetterCase

/-!
# Web addresses

Documents are fetched from addresses with one of two schemes and a host. An address is cut into its
scheme and its authority, which stands between two slashes and the next slash, question mark or
hash. An authority with unmatched brackets, with brackets around anything but an address of the new
kind, or with characters that only look like separators is malformed.

## Main definitions

* `Address.split` : the scheme and the authority of an address.
* `Address.isFetchable` : whether documents can be fetched from an address.
-/

namespace PageMarkup

/-- The scheme and the authority of an address. -/
structure Address where
  scheme : List Char
  authority : List Char

namespace Address

/-- A character that may stand in a scheme. -/
def isSchemeChar (c : Char) : Bool :=
  Identifier.isCapital c || Identifier.isSmall c || Identifier.isDecimal c ||
    c == '+' || c == '-' || c == '.'

/-- An address without control characters and spaces at its start, and without tabs and line
breaks. -/
def clean (s : List Char) : List Char :=
  (s.dropWhile fun c => c.toNat ≤ 0x20).filter fun c => c != '\t' && c != '\n' && c != '\r'

/-- The scheme of an address in small letters, empty if it has none, and the rest. -/
def splitScheme (s : List Char) : List Char × List Char :=
  let front := s.takeWhile (· != ':')
  let starts := front.head?.any fun c => Identifier.isCapital c || Identifier.isSmall c
  if s.contains ':' && starts && front.all isSchemeChar then
    (Text.lower front, s.drop (front.length + 1))
  else ([], s)

/-- The authority behind two slashes at the start of a text. -/
def authorityOf : List Char → List Char
  | '/' :: '/' :: rest => rest.takeWhile fun c => c != '/' && c != '?' && c != '#'
  | _ => []

def isHexDigit (c : Char) : Bool :=
  Identifier.isDecimal c || ('a' ≤ c && c ≤ 'f') || ('A' ≤ c && c ≤ 'F')

/-- A text cut at every such character. -/
def cutAt (mark : Char) : List Char → List (List Char)
  | [] => [[]]
  | c :: cs =>
    if c = mark then [] :: cutAt mark cs
    else
      match cutAt mark cs with
      | [] => [[c]]
      | p :: ps => (c :: p) :: ps

/-- The number of a text of decimal digits. -/
def octet? (s : List Char) : Option Nat :=
  if s.isEmpty || 3 < s.length || !s.all Identifier.isDecimal then none
  else if s.head? = some '0' && 1 < s.length then none
  else
    let n := s.foldl (fun n c => n * 10 + (c.toNat - 0x30)) 0
    if n ≤ 255 then some n else none

/-- Whether a text is four octets between dots. -/
def isDottedQuad (s : List Char) : Bool :=
  let parts := cutAt '.' s
  parts.length == 4 && parts.all fun p => (octet? p).isSome

/-- Whether a text is a group of up to four hexadecimal digits. -/
def isHexGroup (s : List Char) : Bool :=
  !s.isEmpty && s.length ≤ 4 && s.all isHexDigit

/-- The groups of an address of eight, where a dotted quad at the end stands for two. -/
def expandQuad (parts : List (List Char)) : Option (List (List Char)) :=
  match parts.getLast? with
  | some last =>
    if last.contains '.' then
      if isDottedQuad last then some (parts.dropLast ++ [['0'], ['0']]) else none
    else some parts
  | none => some parts

/-- Whether groups make up an address of eight: all eight of them, or fewer with one gap between two
colons, which stands at an end only together with a colon of its own. -/
def areEightGroups (parts : List (List Char)) : Bool :=
  let inner := (parts.drop 1).dropLast
  let gaps := (inner.filter List.isEmpty).length
  let first := parts.headD []
  let last := parts.getLast?.getD []
  if parts.length < 3 || 9 < parts.length || 1 < gaps then false
  else if gaps = 0 then parts.length == 8 && parts.all isHexGroup
  else
    let before := inner.takeWhile fun p => !p.isEmpty
    let after := (inner.dropWhile fun p => !p.isEmpty).drop 1
    let front := (if first.isEmpty then [] else [first]) ++ before
    let back := after ++ (if last.isEmpty then [] else [last])
    (!first.isEmpty || before.isEmpty) && (!last.isEmpty || after.isEmpty) &&
      front.length + back.length < 8 && (front ++ back).all isHexGroup

/-- Whether a text is an address of eight groups, perhaps with a zone behind a percent sign. -/
def isEightGroups (s : List Char) : Bool :=
  let body := s.takeWhile (· != '%')
  let zone := s.drop (body.length + 1)
  let zoneOk := !s.contains '%' || (!zone.isEmpty && !zone.contains '%')
  zoneOk && !s.contains '/' && (expandQuad (cutAt ':' body)).any areEightGroups

/-- Whether a text is an address of a future version: `v`, hexadecimal digits, a dot and more. -/
def isFutureVersion : List Char → Bool
  | 'v' :: rest =>
    let digits := rest.takeWhile isHexDigit
    let more := rest.drop digits.length
    !digits.isEmpty && more.head? == some '.' && 1 < more.length && !more.contains '\n'
  | _ => false

/-- Whether a text may stand between the brackets of an authority. -/
def isBracketed (host : List Char) : Bool :=
  if host.head? = some 'v' then isFutureVersion host else isEightGroups host

/-- A text behind its last such character, or the whole text. -/
def behindLast (mark : Char) (s : List Char) : List Char :=
  (s.reverse.takeWhile (· != mark)).reverse

/-- Whether the host of an authority with brackets is one that brackets stand for. It begins with
the opening bracket if there is one, and behind the closing one only a colon and a number may
stand; a host outside brackets ends before that colon. -/
def isBracketHost (host : List Char) : Bool :=
  if host.contains '[' then
    let inner := host.drop 1
    let name := inner.takeWhile (· != ']')
    let behind := inner.drop (name.length + 1)
    host.head? == some '[' && (behind.isEmpty || behind.head? == some ':') && isBracketed name
  else isBracketed (host.takeWhile (· != ':'))

/-- Whether brackets are used as they may be: not at all, or both of them and for the host, which
stands behind the last at sign. -/
def hasGoodBrackets (authority : List Char) : Bool :=
  if authority.contains '[' != authority.contains ']' then false
  else if !authority.contains '[' then true
  else isBracketHost (behindLast '@' authority)

/-- Characters outside ASCII whose compatibility forms hold a separator of addresses. -/
def disguisedSeparators : List Nat := [
  0x2047, 0x2048, 0x2049, 0x2100, 0x2101, 0x2105, 0x2106, 0x2A74, 0xFE13, 0xFE16, 0xFE55, 0xFE56,
  0xFE5F, 0xFE6B, 0xFF03, 0xFF0F, 0xFF1A, 0xFF1F, 0xFF20]

/-- Whether an authority has a disguised separator. -/
def hasDisguise (authority : List Char) : Bool :=
  authority.any fun c => disguisedSeparators.contains c.toNat

/-- The scheme and the authority of an address. -/
def split (text : String) : Except Misuse Address :=
  let (scheme, rest) := splitScheme (clean text.toList)
  let authority := authorityOf rest
  if !hasGoodBrackets authority || hasDisguise authority then .error .malformedAddress
  else .ok ⟨scheme, authority⟩

/-- Whether documents can be fetched from an address. -/
def isFetchable (a : Address) : Bool :=
  (a.scheme == "http".toList || a.scheme == "https".toList) && !a.authority.isEmpty

end Address

end PageMarkup
