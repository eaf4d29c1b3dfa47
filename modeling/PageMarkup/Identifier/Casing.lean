import PageMarkup.Content.Misuse
import PageMarkup.Identifier.Words
import PageMarkup.Text.Digit
import PageMarkup.Text.LetterCase

/-!
# Identifiers from labels

A label becomes an identifier by joining its words in one of three case styles. A label without
words stands for a fallback word, a leading digit is hidden behind an underscore, and a name that is
reserved takes a suffix.

## Main definitions

* `CaseStyle` : the case styles.
* `Sanitizer` : the reserved names and the fallback word.
* `Sanitizer.name?`, `Sanitizer.identifier` : the identifier of a label.
-/

namespace PageMarkup.Identifier

/-- The styles in which words are joined: `hero_banner`, `heroBanner`, `HeroBanner`. -/
inductive CaseStyle where
  | snake
  | camel
  | pascal
  deriving DecidableEq

def CaseStyle.ofName? : String → Option CaseStyle
  | "snake" => some .snake
  | "camel" => some .camel
  | "pascal" => some .pascal
  | _ => none

/-- Words joined by underscores. -/
def joinSnake : List (List Char) → List Char
  | [] => []
  | [w] => w
  | w :: v :: ws => w ++ '_' :: joinSnake (v :: ws)

/-- Words joined in a case style. -/
def joinWords (style : CaseStyle) (words : List (List Char)) : List Char :=
  match style with
  | .snake => joinSnake words
  | .camel => words.head?.getD [] ++ (words.drop 1).flatMap Text.capitalize
  | .pascal => words.flatMap Text.capitalize

/-- What an identifier must not be, and the word used for a label that has none. -/
structure Sanitizer where
  reserved : List String
  fallback : String

namespace Sanitizer

/-- Whether a name is reserved. -/
def isReserved (s : Sanitizer) (name : String) : Bool :=
  s.reserved.contains name

/-- The words of a label in lower case, or the fallback word. -/
def words (s : Sanitizer) (label : List Char) : List (List Char) :=
  match (splitWords label).map Text.lower with
  | [] => [s.fallback.toList]
  | ws => ws

/-- The identifier of a label; none if the fallback word is used and empty. -/
def name? (s : Sanitizer) (label : List Char) (style : CaseStyle) (suffixText : String) :
    Option String :=
  match joinWords style (s.words label) with
  | [] => none
  | c :: cs =>
    let full := String.ofList (if Text.isDigit c then '_' :: c :: cs else c :: cs)
    some (if s.isReserved full then full ++ suffixText else full)

/-- The identifier of a label in the case style of a name. -/
def identifier (s : Sanitizer) (label : List Char) (style suffixText : String) :
    Except Misuse String :=
  match CaseStyle.ofName? style with
  | none => .error .unknownCase
  | some style =>
    match s.name? label style suffixText with
    | some name => .ok name
    | none => .error .emptyName

end Sanitizer

end PageMarkup.Identifier
