import PageMarkup.Text.LetterCase

/-!
# Capitals

The letters that count as capital, small or title letters, and the ways to put a whole text into
capitals: every letter, the first letter of each word, or each letter that was small.

A letter that lower case changes is a capital, and one that upper case changes is small; the few
that both change are title letters. Two tables add the letters without a partner, such as those of
mathematical alphabets.

## Main definitions

* `upper`, `titleWords`, `swapCase`, `foldCase` : texts in another case.
* `isAllCapital`, `isAllSmall`, `isTitled` : texts that are in one case throughout.
-/

namespace PageMarkup.Text

/-- The capitals that have no small letter, as closed ranges in ascending order. -/
def unpairedCapitals : List (Nat × Nat) := [
  (0x3D2, 0x3D4), (0x2102, 0x2102), (0x2107, 0x2107), (0x210B, 0x210D), (0x2110, 0x2112),
  (0x2115, 0x2115), (0x2119, 0x211D), (0x2124, 0x2124), (0x2128, 0x2128), (0x212C, 0x212D),
  (0x2130, 0x2131), (0x2133, 0x2133), (0x213E, 0x213F), (0x2145, 0x2145), (0x1D400, 0x1D419),
  (0x1D434, 0x1D44D), (0x1D468, 0x1D481), (0x1D49C, 0x1D49C), (0x1D49E, 0x1D49F),
  (0x1D4A2, 0x1D4A2), (0x1D4A5, 0x1D4A6), (0x1D4A9, 0x1D4AC), (0x1D4AE, 0x1D4B5),
  (0x1D4D0, 0x1D4E9), (0x1D504, 0x1D505), (0x1D507, 0x1D50A), (0x1D50D, 0x1D514),
  (0x1D516, 0x1D51C), (0x1D538, 0x1D539), (0x1D53B, 0x1D53E), (0x1D540, 0x1D544),
  (0x1D546, 0x1D546), (0x1D54A, 0x1D550), (0x1D56C, 0x1D585), (0x1D5A0, 0x1D5B9),
  (0x1D5D4, 0x1D5ED), (0x1D608, 0x1D621), (0x1D63C, 0x1D655), (0x1D670, 0x1D689),
  (0x1D6A8, 0x1D6C0), (0x1D6E2, 0x1D6FA), (0x1D71C, 0x1D734), (0x1D756, 0x1D76E),
  (0x1D790, 0x1D7A8), (0x1D7CA, 0x1D7CA), (0x1F130, 0x1F149), (0x1F150, 0x1F169),
  (0x1F170, 0x1F189)]

/-- The small letters that have no capital, as closed ranges in ascending order. -/
def unpairedSmalls : List (Nat × Nat) := [
  (0xAA, 0xAA), (0xBA, 0xBA), (0x138, 0x138), (0x18D, 0x18D), (0x19B, 0x19B), (0x1AA, 0x1AB),
  (0x1BA, 0x1BA), (0x1BE, 0x1BE), (0x221, 0x221), (0x234, 0x239), (0x255, 0x255), (0x258, 0x258),
  (0x25A, 0x25A), (0x25D, 0x25F), (0x262, 0x262), (0x264, 0x264), (0x267, 0x267), (0x26D, 0x26E),
  (0x270, 0x270), (0x273, 0x274), (0x276, 0x27C), (0x27E, 0x27F), (0x281, 0x281), (0x284, 0x286),
  (0x28D, 0x291), (0x293, 0x293), (0x295, 0x29C), (0x29F, 0x2B8), (0x2C0, 0x2C1), (0x2E0, 0x2E4),
  (0x37A, 0x37A), (0x3FC, 0x3FC), (0x560, 0x560), (0x588, 0x588), (0x1D00, 0x1D78),
  (0x1D7A, 0x1D7C), (0x1D7E, 0x1D8D), (0x1D8F, 0x1DBF), (0x1E9C, 0x1E9D), (0x1E9F, 0x1E9F),
  (0x2071, 0x2071), (0x207F, 0x207F), (0x2090, 0x209C), (0x210A, 0x210A), (0x210E, 0x210F),
  (0x2113, 0x2113), (0x212F, 0x212F), (0x2134, 0x2134), (0x2139, 0x2139), (0x213C, 0x213D),
  (0x2146, 0x2149), (0x2C71, 0x2C71), (0x2C74, 0x2C74), (0x2C77, 0x2C7D), (0x2CE4, 0x2CE4),
  (0xA69C, 0xA69D), (0xA730, 0xA731), (0xA770, 0xA778), (0xA78E, 0xA78E), (0xA795, 0xA795),
  (0xA7AF, 0xA7AF), (0xA7F8, 0xA7FA), (0xAB30, 0xAB52), (0xAB54, 0xAB5A), (0xAB5C, 0xAB68),
  (0x1D41A, 0x1D433), (0x1D44E, 0x1D454), (0x1D456, 0x1D467), (0x1D482, 0x1D49B),
  (0x1D4B6, 0x1D4B9), (0x1D4BB, 0x1D4BB), (0x1D4BD, 0x1D4C3), (0x1D4C5, 0x1D4CF),
  (0x1D4EA, 0x1D503), (0x1D51E, 0x1D537), (0x1D552, 0x1D56B), (0x1D586, 0x1D59F),
  (0x1D5BA, 0x1D5D3), (0x1D5EE, 0x1D607), (0x1D622, 0x1D63B), (0x1D656, 0x1D66F),
  (0x1D68A, 0x1D6A5), (0x1D6C2, 0x1D6DA), (0x1D6DC, 0x1D6E1), (0x1D6FC, 0x1D714),
  (0x1D716, 0x1D71B), (0x1D736, 0x1D74E), (0x1D750, 0x1D755), (0x1D770, 0x1D788),
  (0x1D78A, 0x1D78F), (0x1D7AA, 0x1D7C2), (0x1D7C4, 0x1D7C9), (0x1D7CB, 0x1D7CB)]

/-- The letters with a small iota: the first of eight in small and in title case, and the first
capital. -/
def iotaRows : List (Nat × Nat) := [(0x1F80, 0x1F08), (0x1F90, 0x1F28), (0x1FA0, 0x1F68)]

/-- The single letters with a small iota, and the capital of each. -/
def iotaLetters : List (Nat × Nat) := [
  (0x1FB3, 0x391), (0x1FBC, 0x391), (0x1FC3, 0x397), (0x1FCC, 0x397), (0x1FF3, 0x3A9),
  (0x1FFC, 0x3A9)]

/-- The capital that stands before the capital iota in upper case. -/
def iotaCapital? (n : Nat) : Option Nat :=
  match iotaRows.find? fun r => r.1 ≤ n && n < r.1 + 16 with
  | some r => some (r.2 + n % 8)
  | none => iotaLetters.lookup n

/-- The letters whose title case is not their upper case. -/
def digraphStrides : List CaseStride := [
  ⟨0x1C4, 0x1C4, 1, 0⟩, ⟨0x1C5, 0x1C5, 1, -1⟩, ⟨0x1C6, 0x1C6, 1, -2⟩, ⟨0x1C7, 0x1C7, 1, 0⟩,
  ⟨0x1C8, 0x1C8, 1, -1⟩, ⟨0x1C9, 0x1C9, 1, -2⟩, ⟨0x1CA, 0x1CA, 1, 0⟩, ⟨0x1CB, 0x1CB, 1, -1⟩,
  ⟨0x1CC, 0x1CC, 1, -2⟩, ⟨0x1F1, 0x1F1, 1, 0⟩, ⟨0x1F2, 0x1F2, 1, -1⟩, ⟨0x1F3, 0x1F3, 1, -2⟩,
  ⟨0x10D0, 0x10FA, 1, 3008⟩, ⟨0x10FD, 0x10FF, 1, 3008⟩]

/-- The upper case of one character. Where its title case is several characters, the later ones are
capitals too. -/
def upperChar (c : Char) : List Char :=
  if c.toNat < 0x80 then [c.toUpper]
  else match iotaCapital? c.toNat with
    | some n => [Char.ofNat n, Char.ofNat 0x399]
    | none =>
      if digraphStrides.any (·.holds c.toNat) then
        [Char.ofNat (shiftCase digraphStrides c.toNat)]
      else (titleChar c).flatMap titleChar

/-- A letter that is neither a capital nor small. -/
def isTitleLetter (c : Char) : Bool :=
  upperChar c != [c] && lowerChar c != [c]

def isCapitalLetter (c : Char) : Bool :=
  (lowerChar c != [c] && upperChar c == [c]) ||
    unpairedCapitals.any fun r => r.1 ≤ c.toNat && c.toNat ≤ r.2

def isSmallLetter (c : Char) : Bool :=
  (upperChar c != [c] && lowerChar c == [c]) ||
    unpairedSmalls.any fun r => r.1 ≤ c.toNat && c.toNat ≤ r.2

def hasCase (c : Char) : Bool :=
  isCapitalLetter c || isSmallLetter c || isTitleLetter c

/-- A text in capitals. -/
def upper (cs : List Char) : List Char :=
  cs.flatMap upperChar

/-- A character in the case that is compared when case does not matter: the small letters of its
capitals. The dotless i stays apart from the other one, and the Cherokee letters become capitals. -/
def foldChar (c : Char) : List Char :=
  let n := c.toNat
  if n = 0x131 then [c]
  else if n = 0x1E9E then ['s', 's']
  else if (0x13A0 ≤ n && n ≤ 0x13FD) || (0xAB70 ≤ n && n ≤ 0xABBF) then upperChar c
  else (upperChar c).flatMap lowerChar

/-- A text in the case that is compared when case does not matter. -/
def foldCase (cs : List Char) : List Char :=
  cs.flatMap foldChar

/-- Title case of a text behind the characters `before`, nearest first: a letter behind a letter is
put into lower case. -/
def titleAfter (before : List Char) : List Char → List Char
  | [] => []
  | c :: cs =>
    (if before.head?.any hasCase then lowerBetween before c cs else titleChar c) ++
      titleAfter (c :: before) cs

/-- A text with the first letter of each word in title case and the others in lower case. -/
def titleWords (cs : List Char) : List Char :=
  titleAfter [] cs

/-- Capitals made small and small letters made capitals, behind the characters `before`. -/
def swapAfter (before : List Char) : List Char → List Char
  | [] => []
  | c :: cs =>
    (if isCapitalLetter c then lowerBetween before c cs
      else if isSmallLetter c then upperChar c else [c]) ++ swapAfter (c :: before) cs

/-- A text with capitals for small letters and small letters for capitals. -/
def swapCase (cs : List Char) : List Char :=
  swapAfter [] cs

/-- Whether a text has capitals and no other letters with a case. -/
def isAllCapital (cs : List Char) : Bool :=
  cs.any isCapitalLetter && !cs.any fun c => isSmallLetter c || isTitleLetter c

/-- Whether a text has small letters and no other letters with a case. -/
def isAllSmall (cs : List Char) : Bool :=
  cs.any isSmallLetter && !cs.any fun c => isCapitalLetter c || isTitleLetter c

/-- Whether exactly the letters that are not behind a letter are capitals or title letters. -/
def isTitledAfter (inWord : Bool) : List Char → Bool
  | [] => true
  | c :: cs =>
    if isCapitalLetter c || isTitleLetter c then !inWord && isTitledAfter true cs
    else if isSmallLetter c then inWord && isTitledAfter true cs
    else isTitledAfter false cs

/-- Whether a text has letters with a case, and each of its words starts with its only capital. -/
def isTitled (cs : List Char) : Bool :=
  cs.any hasCase && isTitledAfter false cs

end PageMarkup.Text
