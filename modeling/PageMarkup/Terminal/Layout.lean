import PageMarkup.Terminal.CellWidth
import PageMarkup.Terminal.Message
import PageMarkup.Text.Blank
import PageMarkup.Text.Lines

/-!
# The layout of a terminal

A terminal is four hundred cells wide. Messages that are wider are broken between words, and a word
that is wider than the terminal is broken where it reaches the edge. Code is not broken but cut off.
A tab in a message leads to the next multiple of eight cells, and one in code to the next multiple
of four characters.

## Main definitions

* `messageLines` : the lines of the text of a message.
* `codeLines` : the lines of code.
-/

namespace PageMarkup.Terminal

def terminalWidth : Nat := 400

/-- A line in which tabs lead to the next multiple of `step` of what `width` measures, behind what
already measures `column`. -/
def expandTabs (step : Nat) (width : Char → Nat) : (column : Nat) → List Char → List Char
  | _, [] => []
  | column, c :: cs =>
    if c = '\t' then
      let spaces := step - column % step
      List.replicate spaces ' ' ++ expandTabs step width (column + spaces) cs
    else c :: expandTabs step width (column + width c) cs

/-- The first word of a line with the blanks behind it, and the rest. -/
def spanWord (s : List Char) : List Char × List Char :=
  let word := s.takeWhile fun c => !Text.isBlank c
  let rest := s.drop word.length
  (word ++ rest.takeWhile Text.isBlank, rest.dropWhile Text.isBlank)

/-- The words of a line, each with the blanks behind it, in at most `steps` words. -/
def wordsIn : (steps : Nat) → List Char → List (List Char)
  | 0, s => if s.isEmpty then [] else [s]
  | _, [] => []
  | n + 1, s => (spanWord s).1 :: wordsIn n (spanWord s).2

/-- The words of a line, each with the blanks behind it; the first one also has those before it. A
line of blanks is no word. -/
def lineWords (s : List Char) : List (List Char) :=
  let blanks := s.takeWhile Text.isBlank
  match wordsIn s.length (s.drop blanks.length) with
  | [] => if blanks.isEmpty then [] else [blanks]
  | word :: words => (blanks ++ word) :: words

/-- A text in pieces that fit into the width, behind one that is begun and takes some cells. -/
def chop (width : Nat) (piece : List Char) (cells : Nat) : List Char → List (List Char)
  | [] => [piece]
  | c :: cs =>
    if width < cells + cellWidth c then piece :: chop width [c] (cellWidth c) cs
    else chop width (piece ++ [c]) (cells + cellWidth c) cs

/-- Lines of words, behind a line that is begun and takes some cells. The blanks behind a word need
no room. -/
def fill (width : Nat) (line : List Char) (cells : Nat) :
    List (List Char) → List (List Char)
  | [] => [line]
  | word :: words =>
    let need := cellsOf (Text.stripEnd word)
    if cells + need ≤ width then fill width (line ++ word) (cells + cellsOf word) words
    else
      let before := if line.isEmpty then [] else [line]
      if need ≤ width then before ++ fill width word (cellsOf word) words
      else
        let pieces := chop width [] 0 word
        let last := pieces.getLast?.getD []
        before ++ pieces.dropLast ++ fill width last (cellsOf last) words

/-- The lines of the text of a message. -/
def messageLines (text : List Char) : List (List Char) :=
  (Text.splitLines text).flatMap fun line =>
    fill terminalWidth [] 0 (lineWords (expandTabs 8 cellWidth 0 line))

/-- The beginning of a line that fits into the room. A space stands for the first half of a wide
character that does not. -/
def crop : (room : Nat) → List Char → List Char
  | _, [] => []
  | room, c :: cs =>
    if cellWidth c ≤ room then c :: crop (room - cellWidth c) cs
    else List.replicate room ' '

/-- A text in which lines end with a newline alone. -/
def plainLineEnds : List Char → List Char
  | [] => []
  | [c] => if c = '\r' then ['\n'] else [c]
  | c :: d :: cs =>
    if c = '\r' then
      if d = '\n' then '\n' :: plainLineEnds cs else '\n' :: plainLineEnds (d :: cs)
    else c :: plainLineEnds (d :: cs)

/-- The lines of code. A carriage return at its end is no line of its own. -/
def codeLines (code : String) : List (List Char) :=
  let ended := code.toList ++ ['\n']
  let lines := (Text.splitLines (plainLineEnds ended)).dropLast
  lines.map fun line => crop terminalWidth (withoutControls (expandTabs 4 (fun _ => 1) 0 line))

end PageMarkup.Terminal
