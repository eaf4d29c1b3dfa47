import PageMarkup.Content.Value

/-!
# Markup as plain values

Where only plain values can be kept, a piece of markup is kept as the map of its parts by name.

## Main definitions

* `Markup.parts` : the map of the parts of a piece of markup.
* `Value.unfolded` : a value in which all markup is replaced by its parts.
-/

namespace PageMarkup

def Value.record (fields : List (String × Value)) : Value :=
  .map (fields.map fun e => (.str e.1, e.2))

mutual

/-- A value in which all markup is replaced by its parts. -/
def Value.unfolded : Value → Value
  | .list xs => .list (Value.unfoldedAll xs)
  | .tuple xs => .tuple (Value.unfoldedAll xs)
  | .map es => .map (Value.unfoldedEntries es)
  | .markup m => m.parts
  | .null => .null
  | .bool b => .bool b
  | .int n => .int n
  | .float x => .float x
  | .str s => .str s
  | .foreign kind text => .foreign kind text
termination_by structural v => v

/-- The items of a collection, unfolded. -/
def Value.unfoldedAll : List Value → List Value
  | [] => []
  | x :: xs => x.unfolded :: Value.unfoldedAll xs
termination_by structural xs => xs

/-- The entries of a map, unfolded. -/
def Value.unfoldedEntries : List (Value × Value) → List (Value × Value)
  | [] => []
  | (k, v) :: es => (k, v.unfolded) :: Value.unfoldedEntries es
termination_by structural es => es

/-- The map of the parts of a piece of markup. -/
def Markup.parts : Markup → Value
  | .literal v => .record [("value", v.unfolded)]
  | .raw code => .record [("code", .str code)]
  | .text content => .record [("text", .str content)]
  | .array items => .record [("items", .tuple (Markup.partsAll items))]
  | .object entries => .record [("entries", .tuple (Markup.partsOfEntries entries))]
  | .element tag attributes children => .record [
      ("tag", tag.unfolded), ("attributes", .tuple (Markup.partsOfAttributes attributes)),
      ("children", .tuple (Markup.partsAll children))]
  | .fragment children => .record [("children", .tuple (Markup.partsAll children))]
termination_by structural m => m

/-- The maps of the parts of sibling trees. -/
def Markup.partsAll : List Markup → List Value
  | [] => []
  | m :: ms => m.parts :: Markup.partsAll ms
termination_by structural ms => ms

/-- The entries of an object, each a pair. -/
def Markup.partsOfEntries : List (String × Markup) → List Value
  | [] => []
  | (k, m) :: es => .tuple [.str k, m.parts] :: Markup.partsOfEntries es
termination_by structural es => es

/-- The attributes of an element, each a pair. -/
def Markup.partsOfAttributes : List (Value × Markup) → List Value
  | [] => []
  | (k, m) :: es => .tuple [k.unfolded, m.parts] :: Markup.partsOfAttributes es
termination_by structural es => es

end

end PageMarkup
