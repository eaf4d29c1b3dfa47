import PageMarkup.Text.Blank

/-!
# Pieces of a text

A text is cut into words at its blank characters, or into lines at every kind of line break, and
its tabs are filled up with spaces.

## Main definitions

* `blankWords` : the words between blank characters.
* `breakLines` : the lines between line breaks.
* `expandTabs` : a text with spaces for its tabs.
-/

namespace PageMarkup.Text

/-- The words of a text behind the characters of an open word, last first. -/
def blankWordsAfter (word : List Char) : List Char → List (List Char)
  | [] => if word.isEmpty then [] else [word.reverse]
  | c :: cs =>
    if !isBlank c then blankWordsAfter (c :: word) cs
    else if word.isEmpty then blankWordsAfter [] cs
    else word.reverse :: blankWordsAfter [] cs

/-- The words of a text: the longest runs of characters that are not blank. -/
def blankWords (cs : List Char) : List (List Char) :=
  blankWordsAfter [] cs

/-- A character that ends a line. -/
def isLineBreak (c : Char) : Bool :=
  (0x0A ≤ c.toNat && c.toNat ≤ 0x0D) || (0x1C ≤ c.toNat && c.toNat ≤ 0x1E) ||
    [0x85, 0x2028, 0x2029].contains c.toNat

/-- The lines of a text behind the characters of an open line, last first. -/
def breakLinesAfter (line : List Char) : List Char → List (List Char)
  | [] => if line.isEmpty then [] else [line.reverse]
  | '\r' :: '\n' :: cs => line.reverse :: breakLinesAfter [] cs
  | c :: cs =>
    if isLineBreak c then line.reverse :: breakLinesAfter [] cs else breakLinesAfter (c :: line) cs

/-- The lines of a text. A line break ends a line, so none follows the last one, and a carriage
return with a newline is one break. -/
def breakLines (cs : List Char) : List (List Char) :=
  breakLinesAfter [] cs

/-- A text whose first character stands in a column, with its tabs filled up to the next multiple
of eight columns. -/
def expandTabsFrom (column : Nat) : List Char → List Char
  | [] => []
  | c :: cs =>
    if c = '\t' then
      let width := 8 - column % 8
      List.replicate width ' ' ++ expandTabsFrom (column + width) cs
    else if c = '\n' ∨ c = '\r' then c :: expandTabsFrom 0 cs
    else c :: expandTabsFrom (column + 1) cs

/-- A text with spaces for its tabs. -/
def expandTabs (cs : List Char) : List Char :=
  expandTabsFrom 0 cs

end PageMarkup.Text
