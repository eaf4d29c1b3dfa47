import PageMarkup.Terminal.Picture
import PageMarkup.Terminal.Style
import PageMarkup.Terminal.TagValue
import PageMarkup.Content.Misuse

/-!
# Messages

A message is written in a notation of its own. Tags in brackets open styles and, with a slash, close
them again: the innermost open style of a name, or the innermost of all if no name is given. A tag
that closes nothing is an error. A backslash before a tag makes it text, and two of them stand for
one. Pictures may be called by name. A terminal shows the text without tags and without the
characters that would move its cursor.

## Main definitions

* `Piece`, `piecesOf` : the texts and tags of a message.
* `readMessage` : the text of a message.
-/

namespace PageMarkup.Terminal

/-- A tag: the name of a style or an action, and what is given behind an equals sign. -/
structure Tag where
  name : List Char
  given : Option (List Char)

/-- The tag with the given inside. -/
def Tag.ofInside (inside : List Char) : Tag :=
  let name := inside.takeWhile (· != '=')
  ⟨name, if inside.contains '=' then some (inside.drop (name.length + 1)) else none⟩

/-- A part of a message. -/
inductive Piece where
  | text (s : List Char)
  | tag (t : Tag)

def backslash : Char := Char.ofNat 0x5C

/-- A character with which the inside of a tag begins. -/
def startsTag (c : Char) : Bool :=
  ('a' ≤ c && c ≤ 'z') || c == '#' || c == '/' || c == '@'

/-- The inside of a tag at the start of a text, and the rest. No bracket stands in a tag. -/
def tag? : List Char → Option (List Char × List Char)
  | '[' :: c :: cs =>
    let inside := cs.takeWhile fun c => c != ']' && c != '['
    match startsTag c, cs.drop inside.length with
    | true, ']' :: rest => some (c :: inside, rest)
    | _, _ => none
  | _ => none

/-- A piece of text, unless it is empty. -/
def textPiece (s : List Char) : List Piece :=
  if s.isEmpty then [] else [.text s]

/-- The pieces of a text, looked for in at most `steps` places; `before` is the text that has not
been put into a piece, backwards. Of the backslashes before a tag two stand for one, and one that is
left over makes the tag text. -/
def piecesIn : (steps : Nat) → (before : List Char) → List Char → List Piece
  | 0, before, s => textPiece (before.reverse ++ s)
  | _, before, [] => textPiece before.reverse
  | n + 1, before, c :: cs =>
    let slashes := ((c :: cs).takeWhile (· == backslash)).length
    match tag? ((c :: cs).drop slashes) with
    | some (inside, rest) =>
      let here : Piece :=
        if slashes % 2 = 1 then .text ('[' :: inside ++ [']']) else .tag (.ofInside inside)
      textPiece before.reverse ++ textPiece (List.replicate (slashes / 2) backslash) ++
        here :: piecesIn n [] rest
    | none => piecesIn n (c :: before) cs

/-- The texts and tags of a message. -/
def piecesOf (s : List Char) : List Piece :=
  piecesIn s.length [] s

/-- A text in which a backslash before a bracket is left out. -/
def withoutBracketMarks : List Char → List Char
  | [] => []
  | [c] => [c]
  | c :: d :: cs =>
    if c = backslash ∧ d = '[' then d :: withoutBracketMarks cs
    else c :: withoutBracketMarks (d :: cs)

/-- A character that would move the cursor or ring the bell. -/
def isCursorControl (c : Char) : Bool :=
  [0x07, 0x08, 0x0B, 0x0C, 0x0D].contains c.toNat

/-- A text without the characters that would move the cursor. -/
def withoutControls (s : List Char) : List Char :=
  s.filter fun c => !isCursorControl c

variable (pictures : Pictures)

/-- The text of a piece of text. -/
def pieceText (s : List Char) : List Char :=
  withoutControls (withPictures pictures (withoutBracketMarks s))

/-- Whether a tag may be closed: the value of an action has to be one. -/
def Tag.mayClose (t : Tag) : Bool :=
  t.name.head? != some '@' || (t.given.getD []).isEmpty || isActionValue (t.given.getD [])

/-- The open tags that are left when a tag closes one; the innermost comes first. -/
def closeTag (opened : List Tag) (closing : Tag) : Except Misuse (List Tag) :=
  let name := Text.strip (closing.name.drop 1)
  let isClosed (t : Tag) : Bool := name.isEmpty || t.name == normalStyle name
  match opened.find? isClosed with
  | none => .error .malformedMessage
  | some t => if t.mayClose then .ok (opened.eraseP isClosed) else .error .malformedMessage

/-- The text of pieces behind open tags. -/
def readPieces (opened : List Tag) : List Piece → Except Misuse (List Char)
  | [] => .ok []
  | .text s :: ps => do return pieceText pictures s ++ (← readPieces opened ps)
  | .tag t :: ps =>
    if t.name.head? = some '/' then do readPieces (← closeTag opened t) ps
    else readPieces ({ t with name := normalStyle t.name } :: opened) ps

/-- The text of a message. -/
def readMessage (s : String) : Except Misuse (List Char) :=
  readPieces pictures [] (piecesOf s.toList)

end PageMarkup.Terminal
