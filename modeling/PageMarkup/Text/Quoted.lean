/-!
# Quoted texts

A quoted text stands between double quotes. A quote and a backslash inside it follow a backslash;
the control characters below the space are written by a letter where they have one and by four
hexadecimal digits where not; every other character stands for itself. Reading accepts in addition
an escaped slash and any character by its number, where two numbers of a surrogate pair make one
character. Half of such a pair by itself is no character. It is kept as one of 2048 characters for
private use that are set apart for it.

## Main definitions

* `quote` : the written form of a text.
* `loneSurrogate` : what is kept of half of a surrogate pair.
* `readQuoted` : the text that a written form stands for, and what follows it.
-/

namespace PageMarkup.Text

def quoteMark : Char := '\x22'

/-- The backslash, which starts an escape. -/
def escapeMark : Char := '\x5C'

/-- The digit of a value below sixteen, in lower case. -/
def hexDigit (n : Nat) : Char :=
  Char.ofNat (if n < 10 then 0x30 + n else 0x57 + n)

/-- The last `width` hexadecimal digits of a number. -/
def hexDigits : (width : Nat) → Nat → List Char
  | 0, _ => []
  | w + 1, n => hexDigits w (n / 16) ++ [hexDigit (n % 16)]

/-- The written form of one character between the quotes. -/
def quoteChar (c : Char) : List Char :=
  if c = quoteMark ∨ c = escapeMark then [escapeMark, c]
  else if c = '\n' then [escapeMark, 'n']
  else if c = '\r' then [escapeMark, 'r']
  else if c = '\t' then [escapeMark, 't']
  else if c.toNat = 0x08 then [escapeMark, 'b']
  else if c.toNat = 0x0C then [escapeMark, 'f']
  else if c.toNat < 0x20 then escapeMark :: 'u' :: hexDigits 4 c.toNat
  else [c]

/-- The written form of a text, quotes included. -/
def quote (s : List Char) : List Char :=
  quoteMark :: s.flatMap quoteChar ++ [quoteMark]

/-- The value of a hexadecimal digit in either case. -/
def hexValue? (c : Char) : Option Nat :=
  if '0' ≤ c ∧ c ≤ '9' then some (c.toNat - 0x30)
  else if 'a' ≤ c ∧ c ≤ 'f' then some (c.toNat - 0x57)
  else if 'A' ≤ c ∧ c ≤ 'F' then some (c.toNat - 0x37)
  else none

/-- The number of four hexadecimal digits. -/
def hexNumber? (a b c d : Char) : Option Nat := do
  return (((← hexValue? a) * 16 + (← hexValue? b)) * 16 + (← hexValue? c)) * 16 + (← hexValue? d)

/-- The character that a backslash and one letter stand for. -/
def shortEscape? (c : Char) : Option Char :=
  if c = quoteMark ∨ c = escapeMark ∨ c = '/' then some c
  else if c = 'n' then some '\n'
  else if c = 'r' then some '\r'
  else if c = 't' then some '\t'
  else if c = 'b' then some (Char.ofNat 0x08)
  else if c = 'f' then some (Char.ofNat 0x0C)
  else none

/-- The first number of a surrogate pair. -/
def isHighSurrogate (n : Nat) : Bool := 0xD800 ≤ n && n ≤ 0xDBFF

/-- The second number of a surrogate pair. -/
def isLowSurrogate (n : Nat) : Bool := 0xDC00 ≤ n && n ≤ 0xDFFF

/-- The private character for half of a surrogate pair. -/
def loneSurrogate (n : Nat) : Char := Char.ofNat (0x100000 + n)

/-- Whether a character is one of those for half of a surrogate pair. -/
def isLoneSurrogate (c : Char) : Bool := 0x10D800 ≤ c.toNat && c.toNat ≤ 0x10DFFF

/-- The character of a number. -/
def charOfUnit (n : Nat) : Char :=
  if isHighSurrogate n || isLowSurrogate n then loneSurrogate n else Char.ofNat n

/-- The characters of a sequence of numbers, in which a surrogate pair is one character. -/
def charsOfUnits : List Nat → List Char
  | [] => []
  | [n] => [charOfUnit n]
  | m :: n :: rest =>
    if isHighSurrogate m && isLowSurrogate n then
      Char.ofNat (0x10000 + (m - 0xD800) * 0x400 + (n - 0xDC00)) :: charsOfUnits rest
    else charOfUnit m :: charsOfUnits (n :: rest)

/-- One more number before those that a reading gives. -/
def consUnit (n : Nat) (r : List Nat × List Char) : List Nat × List Char :=
  (n :: r.1, r.2)

/-- Reads up to the closing quote, the opening one being gone; `none` where the quote is missing,
an escape is unknown or a control character stands for itself. -/
def readUnits : List Char → Option (List Nat × List Char)
  | [] => none
  | '\x5C' :: 'u' :: a :: b :: c :: d :: rest =>
    match hexNumber? a b c d with
    | some n => (readUnits rest).map (consUnit n)
    | none => none
  | '\x5C' :: c :: rest =>
    match shortEscape? c with
    | some x => (readUnits rest).map (consUnit x.toNat)
    | none => none
  | c :: rest =>
    if c = quoteMark then some ([], rest)
    else if c = escapeMark ∨ c.toNat < 0x20 then none
    else (readUnits rest).map (consUnit c.toNat)

/-- Reads a quoted text and gives back what follows it. -/
def readQuoted : List Char → Option (List Char × List Char)
  | [] => none
  | c :: rest =>
    if c = quoteMark then (readUnits rest).map fun r => (charsOfUnits r.1, r.2) else none

end PageMarkup.Text
