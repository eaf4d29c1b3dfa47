import PageMarkup.Content.Misuse
import PageMarkup.Content.Value
import PageMarkup.Decimal.Style
import PageMarkup.Text.Printable
import PageMarkup.Text.Quoted

/-!
# Values in messages

A value is shown in two ways. Its text is what stands for it in running text: a text stands for
itself. Its inspected form shows what kind of value it is: a text stands in quotes, with escapes
for what cannot be printed, and markup names its parts. The two agree on everything but texts, and
collections hold inspected forms.

An integer with too many digits has no text, and nor has a value that would show one.

## Main definitions

* `Value.inspect`, `Markup.inspect` : the inspected form.
* `Value.isShowable`, `Markup.isShowable` : whether all integers in it have texts.
* `Value.text`, `Value.text?` : the text of a value, and the refusal where there is none.
* `Value.kindName` : the name of the kind of a value.
-/

namespace PageMarkup

/-- Numbers from a ten-thousandth up to ten quadrillions are written without an exponent; an
exponent has two digits at least. -/
def shownDecimal : Decimal.DecimalStyle where
  leastPositional := -4
  firstScientific := 16
  exponentWidth := 2
  nanText := "nan"
  infinityText := "inf"

/-- The inspected form of one character between the given quotes. -/
def inspectChar (mark c : Char) : List Char :=
  let back : Char := Text.escapeMark
  if c = mark ∨ c = back then [back, c]
  else if c = '\n' then [back, 'n']
  else if c = '\r' then [back, 'r']
  else if c = '\t' then [back, 't']
  else if Text.isLoneSurrogate c then back :: 'u' :: Text.hexDigits 4 c.toNat
  else if Text.isPrintable c then [c]
  else if c.toNat < 0x100 then back :: 'x' :: Text.hexDigits 2 c.toNat
  else if c.toNat < 0x10000 then back :: 'u' :: Text.hexDigits 4 c.toNat
  else back :: 'U' :: Text.hexDigits 8 c.toNat

/-- The inspected form of a text: between apostrophes, or between double quotes if the text has
apostrophes and no double quote. -/
def inspectText (s : List Char) : List Char :=
  let apostrophe : Char := '\x27'
  let mark := if s.contains apostrophe && !s.contains Text.quoteMark then Text.quoteMark
    else apostrophe
  mark :: s.flatMap (inspectChar mark) ++ [mark]

/-- Parts of a collection, separated by commas. -/
def commaSeparated (parts : List String) : String :=
  String.intercalate ", " parts

/-- The inspected form of a tuple from those of its items: one item is followed by a comma. -/
def inspectTuple (parts : List String) : String :=
  match parts with
  | [part] => "(" ++ part ++ ",)"
  | _ => "(" ++ commaSeparated parts ++ ")"

mutual

/-- The inspected form of a value. -/
def Value.inspect : Value → String
  | .null => "None"
  | .bool b => if b then "True" else "False"
  | .int n => Decimal.intText n
  | .float x => shownDecimal.write x
  | .str s => String.ofList (inspectText s.toList)
  | .list xs => "[" ++ commaSeparated (Value.inspectAll xs) ++ "]"
  | .tuple xs => inspectTuple (Value.inspectAll xs)
  | .map es => "\x7b" ++ commaSeparated (Value.inspectEntries es) ++ "\x7d"
  | .foreign _ t => t
  | .markup m => m.inspect

/-- The inspected forms of the items of a collection. -/
def Value.inspectAll : List Value → List String
  | [] => []
  | x :: xs => x.inspect :: Value.inspectAll xs

/-- The inspected forms of the entries of a map. -/
def Value.inspectEntries : List (Value × Value) → List String
  | [] => []
  | (k, v) :: es => (k.inspect ++ ": " ++ v.inspect) :: Value.inspectEntries es

/-- The inspected form of markup: the name of its kind and its parts by name. -/
def Markup.inspect : Markup → String
  | .literal v => "Literal(value=" ++ v.inspect ++ ")"
  | .raw code => "RawCode(code=" ++ String.ofList (inspectText code.toList) ++ ")"
  | .text content => "JSXText(text=" ++ String.ofList (inspectText content.toList) ++ ")"
  | .array items => "ArrayExpression(items=" ++ inspectTuple (Markup.inspectAll items) ++ ")"
  | .object entries =>
    "ObjectExpression(entries=" ++ inspectTuple (Markup.inspectObject entries) ++ ")"
  | .element tag attributes children =>
    "JSXElement(tag=" ++ tag.inspect ++
      ", attributes=" ++ inspectTuple (Markup.inspectAttributes attributes) ++
      ", children=" ++ inspectTuple (Markup.inspectAll children) ++ ")"
  | .fragment children =>
    "JSXFragment(children=" ++ inspectTuple (Markup.inspectAll children) ++ ")"

/-- The inspected forms of sibling trees. -/
def Markup.inspectAll : List Markup → List String
  | [] => []
  | m :: ms => m.inspect :: Markup.inspectAll ms

/-- The inspected forms of object entries, each a pair. -/
def Markup.inspectObject : List (String × Markup) → List String
  | [] => []
  | (k, m) :: es =>
    inspectTuple [String.ofList (inspectText k.toList), m.inspect] :: Markup.inspectObject es

/-- The inspected forms of attributes, each a pair. -/
def Markup.inspectAttributes : List (Value × Markup) → List String
  | [] => []
  | (k, m) :: es => inspectTuple [k.inspect, m.inspect] :: Markup.inspectAttributes es

end

mutual

/-- Whether all integers that a value shows have texts. -/
def Value.isShowable : Value → Bool
  | .int n => Decimal.isShowable n
  | .list xs => Value.allShowable xs
  | .tuple xs => Value.allShowable xs
  | .map es => Value.entriesShowable es
  | .markup m => m.isShowable
  | _ => true
termination_by structural v => v

/-- Whether all integers that some values show have texts. -/
def Value.allShowable : List Value → Bool
  | [] => true
  | x :: xs => x.isShowable && Value.allShowable xs
termination_by structural xs => xs

/-- Whether all integers that the entries of a map show have texts. -/
def Value.entriesShowable : List (Value × Value) → Bool
  | [] => true
  | (k, v) :: es => k.isShowable && v.isShowable && Value.entriesShowable es
termination_by structural es => es

/-- Whether all integers that a tree shows have texts. -/
def Markup.isShowable : Markup → Bool
  | .literal v => v.isShowable
  | .raw _ => true
  | .text _ => true
  | .array items => Markup.allShowable items
  | .object entries => Markup.entriesShowable entries
  | .element tag attributes children =>
    tag.isShowable && Markup.attributesShowable attributes && Markup.allShowable children
  | .fragment children => Markup.allShowable children
termination_by structural m => m

/-- Whether all integers that sibling trees show have texts. -/
def Markup.allShowable : List Markup → Bool
  | [] => true
  | m :: ms => m.isShowable && Markup.allShowable ms
termination_by structural ms => ms

/-- Whether all integers that the entries of an object show have texts. -/
def Markup.entriesShowable : List (String × Markup) → Bool
  | [] => true
  | (_, m) :: es => m.isShowable && Markup.entriesShowable es
termination_by structural es => es

/-- Whether all integers that attributes show, names included, have texts. -/
def Markup.attributesShowable : List (Value × Markup) → Bool
  | [] => true
  | (k, m) :: es => k.isShowable && m.isShowable && Markup.attributesShowable es
termination_by structural es => es

end

/-- The text of a value: a text itself, and the inspected form of everything else. Of an integer
with too many digits it shows them all. -/
def Value.text : Value → String
  | .str s => s
  | v => v.inspect

/-- The text of a value, refused if an integer in it has too many digits. -/
def Value.text? (v : Value) : Except Misuse String :=
  if v.isShowable then .ok v.text else .error .tooManyDigits

/-- The name of the kind of a piece of markup. -/
def Markup.kindName : Markup → String
  | .literal _ => "Literal"
  | .raw _ => "RawCode"
  | .text _ => "JSXText"
  | .array _ => "ArrayExpression"
  | .object _ => "ObjectExpression"
  | .element _ _ _ => "JSXElement"
  | .fragment _ => "JSXFragment"

/-- The name of the kind of a value. -/
def Value.kindName : Value → String
  | .null => "NoneType"
  | .bool _ => "bool"
  | .int _ => "int"
  | .float _ => "float"
  | .str _ => "str"
  | .list _ => "list"
  | .tuple _ => "tuple"
  | .map _ => "dict"
  | .foreign kind _ => kind
  | .markup m => m.kindName

@[simp] theorem Value.text_str (s : String) : (Value.str s).text = s := rfl

end PageMarkup
