import PageMarkup.Content.Entries
import PageMarkup.Markup.Literal
import PageMarkup.Text.Lines

/-!
# Writing JSON

Values are written over several lines: every item of an array and every field of an object stands on
a line of its own, indented by two spaces for each level. Texts keep their characters outside ASCII.
Keys that are no texts are written as texts of the same look. An integer with more digits than can
be read is not written either.

## Main definitions

* `Json.writeLines` : the written form of a value.
* `Json.write` : the same as one text.
-/

namespace PageMarkup.Json

open Text (Line)

/-- The written form of an integer. -/
def writeInt (n : Int) : Except Misuse (List Char) :=
  if Decimal.maxDigits < (Decimal.natDigits n.natAbs).length then .error .tooManyDigits
  else .ok (Decimal.intText n).toList

/-- The text under which a key is written; a collection cannot be written as a key. -/
def keyText : Value → Except Misuse (List Char)
  | .str s => .ok s.toList
  | .null => .ok "null".toList
  | .bool b => .ok (if b then "true" else "false").toList
  | .int n => writeInt n
  | .float x => .ok (codeDecimal.writeBinary (.ofFloat x))
  | _ => .error .notStorable

/-- Blocks of lines two columns deeper, each but the last with a comma at its end. -/
def separate : List (List Line) → List Line
  | [] => []
  | [b] => b.map fun l => ' ' :: ' ' :: l
  | b :: c :: bs => (appendComma b).map (fun l => ' ' :: ' ' :: l) ++ separate (c :: bs)
where
  appendComma : List Line → List Line
    | [] => []
    | [l] => [l ++ [',']]
    | l :: m :: ls => l :: appendComma (m :: ls)

/-- A text put before the first line of a block. -/
def afterKey (key : List Char) : List Line → List Line
  | [] => []
  | l :: ls => (Text.quote key ++ ':' :: ' ' :: l) :: ls

mutual

/-- The written form of a value, as lines. -/
def writeLines : Value → Except Misuse (List Line)
  | .list xs => do
    let blocks ← writeItems xs
    return if blocks.isEmpty then [['[', ']']] else ['['] :: separate blocks ++ [[']']]
  | .tuple xs => do
    let blocks ← writeItems xs
    return if blocks.isEmpty then [['[', ']']] else ['['] :: separate blocks ++ [[']']]
  | .map es => do
    let blocks ← writeFields es
    return if blocks.isEmpty then [['\x7b', '\x7d']]
      else ['\x7b'] :: separate blocks ++ [['\x7d']]
  | .foreign _ _ => .error .notStorable
  | .markup _ => .error .notStorable
  | .int n => (writeInt n).map ([·])
  | v => .ok [v.literalText]
termination_by structural v => v

/-- The written forms of the items of an array. -/
def writeItems : List Value → Except Misuse (List (List Line))
  | [] => .ok []
  | x :: xs => do return (← writeLines x) :: (← writeItems xs)
termination_by structural xs => xs

/-- The written forms of the fields of an object. -/
def writeFields : List (Value × Value) → Except Misuse (List (List Line))
  | [] => .ok []
  | (k, v) :: es => do
    let key ← keyText k
    return afterKey key (← writeLines v) :: (← writeFields es)
termination_by structural es => es

end

/-- The written form of a value. -/
def write (v : Value) : Except Misuse (List Char) :=
  (writeLines v).map Text.joinLines

end PageMarkup.Json
