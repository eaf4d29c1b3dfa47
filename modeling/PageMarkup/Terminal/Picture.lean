import PageMarkup.Text.Blank
import PageMarkup.Text.LetterCase

/-!
# Pictures in messages

A message may call a picture by a name between colons. Behind the name a hyphen and one of two words
may ask for the form of the picture.

## Main definitions

* `Pictures` : the pictures that can be called.
* `withPictures` : a text with pictures in the place of their names.
-/

namespace PageMarkup.Terminal

/-- The pictures that can be called, by their names in small letters. -/
abbrev Pictures := String → Option String

/-- The character behind a picture that asks for its coloured form. -/
def colouredForm : Char := Char.ofNat 0xFE0F

/-- The character behind a picture that asks for its plain form. -/
def plainForm : Char := Char.ofNat 0xFE0E

/-- A text without an ending that it has. -/
def withoutEnding? (ending : String) (s : String) : Option String :=
  if s.endsWith ending then some (s.dropEnd ending.length).toString else none

variable (pictures : Pictures)

/-- The picture of what stands between colons: a name in capitals or small letters, perhaps with a
form that is asked for. -/
def calledPicture? (call : List Char) : Option (List Char) :=
  let named (name : String) : Option (List Char) :=
    (pictures (String.ofList (Text.lower name.toList))).map String.toList
  let text := String.ofList call
  match withoutEnding? "-emoji" text, withoutEnding? "-text" text with
  | some name, _ => (named name).map (· ++ [colouredForm])
  | none, some name => (named name).map (· ++ [plainForm])
  | none, none => named text

/-- What stands before the next colon of a text, if no blank does, and what follows the colon. -/
def call? (s : List Char) : Option (List Char × List Char) :=
  let call := s.takeWhile fun c => c != ':' && !Text.isBlank c
  match s.drop call.length with
  | ':' :: rest => some (call, rest)
  | _ => none

/-- A text with pictures in the place of their names, looked for in at most `steps` places. A call
of no picture stays as it is, with both of its colons. -/
def withPicturesIn : (steps : Nat) → List Char → List Char
  | 0, s => s
  | _, [] => []
  | n + 1, c :: cs =>
    match if c = ':' then call? cs else none with
    | some (call, rest) =>
      (calledPicture? pictures call).getD (':' :: call ++ [':']) ++ withPicturesIn n rest
    | none => c :: withPicturesIn n cs

/-- A text with pictures in the place of their names. -/
def withPictures (s : List Char) : List Char :=
  withPicturesIn pictures s.length s

end PageMarkup.Terminal
