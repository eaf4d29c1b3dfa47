/-!
# Content values and markup

A page document is built from values: nothing, truth values, numbers, texts, lists, tuples and maps.
Next to these a value may be an object of the embedding program that no rule recognises, or a piece
of finished markup. Markup in turn is a tree of elements, fragments, texts and the literals that
stand in attribute values, so the two types are mutually recursive.

## Main definitions

* `Value` : values of documents, component properties and settings.
* `Markup` : expression trees that the layout turns into text.
* `Value.truthy`, `Value.hashable` : the two classes of values that rules ask for.
-/

namespace PageMarkup

mutual

/-- A value. The keys of a map are values too, and its entries keep their order. -/
inductive Value where
  | null
  | bool (b : Bool)
  | int (n : Int)
  | float (x : Float)
  | str (s : String)
  | list (items : List Value)
  | tuple (items : List Value)
  | map (entries : List (Value × Value))
  | foreign (kind text : String)
  | markup (m : Markup)

/-- A tree of markup. A literal holds a value that is written as an expression; raw code is written
as it stands; a text is the content between the tags of an element. -/
inductive Markup where
  | literal (value : Value)
  | raw (code : String)
  | text (content : String)
  | array (items : List Markup)
  | object (entries : List (String × Markup))
  | element (tag : Value) (attributes : List (Value × Markup)) (children : List Markup)
  | fragment (children : List Markup)

end

instance : Inhabited Value := ⟨.null⟩

instance : Inhabited Markup := ⟨.literal .null⟩

namespace Value

/-- Everything counts as true but nothing, false, the zeros, and empty texts and collections. -/
def truthy : Value → Bool
  | .null => false
  | .bool b => b
  | .int n => n != 0
  | .float x => x != 0
  | .str s => s != ""
  | .list xs => !xs.isEmpty
  | .tuple xs => !xs.isEmpty
  | .map es => !es.isEmpty
  | .foreign _ _ => true
  | .markup _ => true

def entries? : Value → Option (List (Value × Value))
  | .map es => some es
  | _ => none

/-- The items of a list or tuple. -/
def items? : Value → Option (List Value)
  | .list xs => some xs
  | .tuple xs => some xs
  | _ => none

/-- The characters of a text value. -/
def str? : Value → Option String
  | .str s => some s
  | _ => none

/-- Whether a value is a text. -/
def isStr : Value → Bool
  | .str _ => true
  | _ => false

/-- Whether a value is nothing. -/
def isNull : Value → Bool
  | .null => true
  | _ => false

end Value

mutual

/-- Lists and maps change in place and cannot serve as keys, nor can what holds one. -/
def Value.hashable : Value → Bool
  | .list _ => false
  | .map _ => false
  | .tuple xs => Value.allHashable xs
  | .markup m => m.hashable
  | _ => true

/-- Whether all of the values can serve as keys. -/
def Value.allHashable : List Value → Bool
  | [] => true
  | x :: xs => x.hashable && Value.allHashable xs

/-- Whether markup holds nothing but values that can serve as keys. -/
def Markup.hashable : Markup → Bool
  | .literal v => v.hashable
  | .raw _ => true
  | .text _ => true
  | .array items => Markup.allHashable items
  | .object entries => Markup.entriesHashable entries
  | .element tag attributes children =>
    tag.hashable && Markup.attributesHashable attributes && Markup.allHashable children
  | .fragment children => Markup.allHashable children

/-- Whether all of the trees can serve as keys. -/
def Markup.allHashable : List Markup → Bool
  | [] => true
  | m :: ms => m.hashable && Markup.allHashable ms

/-- Whether the values of all object entries can serve as keys. -/
def Markup.entriesHashable : List (String × Markup) → Bool
  | [] => true
  | (_, m) :: es => m.hashable && Markup.entriesHashable es

/-- Whether the names and values of all attributes can serve as keys. -/
def Markup.attributesHashable : List (Value × Markup) → Bool
  | [] => true
  | (k, m) :: es => k.hashable && m.hashable && Markup.attributesHashable es

end

/-- Whether markup is an element or a fragment rather than a plain expression. -/
def Markup.isTagged : Markup → Bool
  | .element _ _ _ => true
  | .fragment _ => true
  | _ => false

/-- Siblings as one piece of markup: none for no siblings, the sibling itself for one, and a
fragment for more. -/
def Markup.group : List Markup → Option Markup
  | [] => none
  | [m] => some m
  | ms => some (.fragment ms)

end PageMarkup
