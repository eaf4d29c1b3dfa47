import PageMarkup.Content.Display
import PageMarkup.Text.Blank
import PageMarkup.Text.Quoted

/-!
# Literals of the generated code

How values stand in generated code: the words `null`, `true` and `false`, numbers, and quoted
texts; a value that has no literal of its own is written as the quoted text of the value. Two
positions of markup allow a text to stand without quotes or escapes: attribute values between plain
double quotes and the content of elements.

## Main definitions

* `Value.literalText`, `Value.literalText?` : the literal of a value, and the refusal where there is
  none.
* `isPlainAttribute`, `isPlainContent` : the texts that may stand as they are.
-/

namespace PageMarkup

/-- Numbers of generated code look as in messages, but for the values without digits. -/
def codeDecimal : Decimal.DecimalStyle :=
  { shownDecimal with nanText := "NaN", infinityText := "Infinity" }

/-- The literal of a value. Of an integer with too many digits it has them all. -/
def Value.literalText (v : Value) : List Char :=
  match v with
  | .null => "null".toList
  | .bool b => if b then "true".toList else "false".toList
  | .int n => (Decimal.intText n).toList
  | .float x => codeDecimal.writeBinary (.ofFloat x)
  | v => Text.quote v.text.toList

/-- The literal of a value, refused if an integer in it has too many digits. -/
def Value.literalText? (v : Value) : Except Misuse (List Char) :=
  if v.isShowable then .ok v.literalText else .error .tooManyDigits

/-- The characters that a text between the quotes of an attribute must not have. -/
def isAttributeUnsafe (c : Char) : Bool :=
  c == Text.quoteMark || c == '&' || c == '\n' || c == '\r'

/-- The characters that a text between tags must not have. -/
def isContentUnsafe (c : Char) : Bool :=
  c == '\x7b' || c == '\x7d' || c == '<' || c == '>' || c == '&' || c == '\n' || c == '\r'

/-- Whether a text may stand between the quotes of an attribute as it is. -/
def isPlainAttribute (s : List Char) : Bool :=
  !s.any isAttributeUnsafe

/-- Whether a text may stand between tags as it is: it is not empty, no blank is lost at its ends,
and nothing in it has a meaning there. -/
def isPlainContent (s : List Char) : Bool :=
  !s.isEmpty && s == Text.strip s && !s.any isContentUnsafe

/-- Code marked to be written as it stands: one line loses the blanks on both sides, several lines
only those at the end, so that their inner indentation stays. -/
def Markup.verbatim (code : String) : Markup :=
  .raw <| String.ofList <|
    if code.toList.contains '\n' then Text.stripEnd code.toList else Text.strip code.toList

end PageMarkup
