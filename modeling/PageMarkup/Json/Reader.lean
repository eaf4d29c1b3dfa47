import PageMarkup.Content.Entries
import PageMarkup.Decimal.Style
import PageMarkup.Text.Quoted

/-!
# Reading JSON

The reader takes a whole text for one value. A number with a point or an exponent is a double and
any other one an integer; the words for the values without digits are accepted. A repeated key keeps
its first place and takes its last value. The digits of an integer are limited in number; a longer
one ends the reading where it stands, before anything behind it is looked at.

## Main definitions

* `Json.Refusal` : why a text is not read.
* `Json.readValue` : a value at the start of a text.
* `Json.read` : the value of a whole text.
-/

namespace PageMarkup.Json

/-- Why a text is not read: it is not in JSON, or it holds an integer with too many digits. -/
inductive Refusal where
  | malformed
  | tooManyDigits
  deriving DecidableEq

/-- What is read, if it can be read at all. -/
def orMalformed {α : Type} : Option α → Except Refusal α
  | some a => .ok a
  | none => .error .malformed

/-- The white space between the parts of a JSON text. -/
def isSpace (c : Char) : Bool :=
  c == ' ' || c == '\t' || c == '\n' || c == '\r'

/-- A text without the white space at its start. -/
def skipSpace (s : List Char) : List Char :=
  s.dropWhile isSpace

/-- What follows a word at the start of a text. -/
def afterWord? (word : String) (s : List Char) : Option (List Char) :=
  if word.toList.isPrefixOf s then some (s.drop word.toList.length) else none

/-- The digits of an integer part: a zero alone, or digits that do not start with one. -/
def readWhole : List Char → Option (List Char × List Char)
  | '0' :: rest => some (['0'], rest)
  | s =>
    match Decimal.spanDigits s with
    | ([], _) => none
    | r => some r

/-- A number without its sign. -/
def readMagnitude (negative : Bool) (s : List Char) : Except Refusal (Value × List Char) := do
  let (whole, rest) ← orMalformed (readWhole s)
  let fraction := Decimal.readFraction rest
  let rest := (fraction.map (·.2)).getD rest
  let exponent := Decimal.readExponent rest
  let rest := (exponent.map (·.2)).getD rest
  if fraction.isNone && exponent.isNone then
    if Decimal.maxDigits < whole.length then throw .tooManyDigits
    return (.int (Decimal.Binary.signed negative (Decimal.digitsValue whole)), rest)
  else
    let places := (fraction.map (·.1)).getD []
    let power := (exponent.map (·.1)).getD 0
    return (.float (Decimal.ofDecimal negative (Decimal.digitsValue (whole ++ places))
      (power - places.length)), rest)

/-- The words that stand for values. -/
def words : List (String × Value) := [
  ("null", .null), ("true", .bool true), ("false", .bool false),
  ("NaN", .float (Float.ofBits 0x7FF8000000000000)),
  ("Infinity", .float (Float.ofBits 0x7FF0000000000000)),
  ("-Infinity", .float (Float.ofBits 0xFFF0000000000000))]

/-- A word or a number at the start of a text. -/
def readPlain (s : List Char) : Except Refusal (Value × List Char) :=
  match words.findSome? fun w => (afterWord? w.1 s).map fun rest => (w.2, rest) with
  | some r => .ok r
  | none =>
    match s with
    | '-' :: rest => readMagnitude true rest
    | s => readMagnitude false s

mutual

/-- A value at the start of a text, and what follows it. Each nested reading is one of at most
`steps`, which the length of the text bounds. -/
def readValue : (steps : Nat) → List Char → Except Refusal (Value × List Char)
  | 0, _ => .error .malformed
  | n + 1, s =>
    match s with
    | '\x22' :: _ =>
      (orMalformed (Text.readQuoted s)).map fun r => (.str (String.ofList r.1), r.2)
    | '[' :: rest =>
      match skipSpace rest with
      | ']' :: rest => .ok (.list [], rest)
      | rest => (readItems n rest).map fun r => (.list r.1, r.2)
    | '\x7b' :: rest =>
      match skipSpace rest with
      | '\x7d' :: rest => .ok (.map [], rest)
      | rest => (readFields n rest).map fun r => (.map (Entries.putAll [] r.1), r.2)
    | s => readPlain s

/-- The items of an array up to its closing bracket. -/
def readItems : (steps : Nat) → List Char → Except Refusal (List Value × List Char)
  | 0, _ => .error .malformed
  | n + 1, s => do
    let (item, rest) ← readValue n s
    match skipSpace rest with
    | ']' :: rest => return ([item], rest)
    | ',' :: rest =>
      let (items, rest) ← readItems n (skipSpace rest)
      return (item :: items, rest)
    | _ => throw .malformed

/-- The fields of an object up to its closing brace. -/
def readFields : (steps : Nat) → List Char →
    Except Refusal (List (Value × Value) × List Char)
  | 0, _ => .error .malformed
  | n + 1, s => do
    let (key, rest) ← orMalformed (Text.readQuoted s)
    match skipSpace rest with
    | ':' :: rest =>
      let (value, rest) ← readValue n (skipSpace rest)
      let field := (Value.str (String.ofList key), value)
      match skipSpace rest with
      | '\x7d' :: rest => return ([field], rest)
      | ',' :: rest =>
        let (fields, rest) ← readFields n (skipSpace rest)
        return (field :: fields, rest)
      | _ => throw .malformed
    | _ => throw .malformed

end

/-- The value of a text that holds one value and nothing else but white space. -/
def read (text : List Char) : Except Refusal Value := do
  let (v, rest) ← readValue (text.length + 1) (skipSpace text)
  if (skipSpace rest).isEmpty then return v else throw .malformed

end PageMarkup.Json
