import PageMarkup.Render.Run

/-!
# Property values as markup

A property value becomes markup by its field. Without one it is a literal of the same structure:
maps become objects without the entries that hold nothing, and sequences become arrays. A slot
renders its nodes. An array with declared item fields renders the nodes among its items and reads
the maps among them by the fields; an object with declared fields does so entry by entry.

## Main definitions

* `Value.asLiteral`, `Value.literal?` : the markup of a value that no field describes, and the
  refusal where a key has no text.
* `renderSlot` : the markup of a slot.
* `serialize` : the markup of a value under a field.
-/

namespace PageMarkup

mutual

/-- A value as a literal expression of the same structure. Entries that hold nothing are left out,
items that hold nothing are not. -/
def Value.asLiteral : Value → Markup
  | .markup m => m
  | .map es => .object (Value.entryLiterals es)
  | .list xs => .array (Value.itemLiterals xs)
  | .tuple xs => .array (Value.itemLiterals xs)
  | .foreign _ t => .literal (.str t)
  | .null => .literal .null
  | .bool b => .literal (.bool b)
  | .int n => .literal (.int n)
  | .float x => .literal (.float x)
  | .str s => .literal (.str s)
termination_by structural v => v

/-- The items of a sequence as literal expressions. -/
def Value.itemLiterals : List Value → List Markup
  | [] => []
  | x :: xs => x.asLiteral :: Value.itemLiterals xs
termination_by structural xs => xs

/-- The entries of a map as entries of an object. -/
def Value.entryLiterals : List (Value × Value) → List (String × Markup)
  | [] => []
  | (k, v) :: es =>
    if v.isNull then Value.entryLiterals es
    else (k.text, v.asLiteral) :: Value.entryLiterals es
termination_by structural es => es

end

mutual

/-- Whether all keys that a value writes as a literal have texts. -/
def Value.hasKeyTexts : Value → Bool
  | .map es => Value.entriesKeyTexts es
  | .list xs => Value.allKeyTexts xs
  | .tuple xs => Value.allKeyTexts xs
  | _ => true
termination_by structural v => v

/-- Whether all keys that the items of a sequence write as literals have texts. -/
def Value.allKeyTexts : List Value → Bool
  | [] => true
  | x :: xs => x.hasKeyTexts && Value.allKeyTexts xs
termination_by structural xs => xs

/-- Whether all keys that the entries of a map write as literals have texts. -/
def Value.entriesKeyTexts : List (Value × Value) → Bool
  | [] => true
  | (k, v) :: es =>
    (v.isNull || k.isShowable && v.hasKeyTexts) && Value.entriesKeyTexts es
termination_by structural es => es

end

/-- The literal of a value, refused if a key in it has no text. -/
def Value.literal? (v : Value) : Except Misuse Markup :=
  if v.hasKeyTexts then .ok v.asLiteral else .error .tooManyDigits

/-- The markup of sibling nodes: none, one piece, or a fragment of several. They are siblings if
there are at least two of them, skipped ones counted. -/
def renderSiblings (level : LevelRenderer) (counted : Bool) (nodes : List Value) :
    Render (Option Markup) := do
  let place : Place := ⟨1 < nodes.length, counted⟩
  let rendered ← nodes.mapM fun node => level node place
  return Markup.group (rendered.filterMap id)

/-- The markup of the nodes of a slot, which are one level deeper than the node that has it. -/
def renderSlot (render : NodeRenderer) (depth : Int) (counted : Bool) (nodes : List Value) :
    Render (Option Markup) :=
  renderSiblings (render (depth + 1)) counted nodes

/-- The markup of a value as a slot: only a sequence holds nodes. -/
def renderSlotValue (render : NodeRenderer) (depth : Int) (counted : Bool) (v : Value) :
    Render (Option Markup) :=
  match v.items? with
  | some nodes => renderSlot render depth counted nodes
  | none => pure none

/-- Whether a field, if there is one, is a slot. -/
def slotField (field : Option Field) : Bool :=
  field.any Field.isSlot

/-- The markup of a value that no field describes. -/
def serializeLiteral (v : Value) : Render (Option Markup) := do
  return some (← Render.ofMisuse v.literal?)

/-- The entry of an object for a key, if its value has markup. -/
def keyedEntry (key : Value) (value : Option Markup) : Except Misuse (List (String × Markup)) :=
  match value with
  | some m => do return [(← key.text?, m)]
  | none => .ok []

mutual

/-- The markup of a value under a field, in a node at a depth; none if the value is nothing or a
slot without markup. -/
def serialize (render : NodeRenderer) (depth : Int) (counted : Bool) (field : Option Field) :
    Value → Render (Option Markup)
  | .markup m => pure (some m)
  | .null => pure none
  | .list xs =>
    if slotField field then renderSlot render depth counted xs
    else match field.bind Field.itemFields? with
      | some fields => do return some (.array (← serializeItems render depth counted fields xs))
      | none => serializeLiteral (.list xs)
  | .tuple xs =>
    if slotField field then renderSlot render depth counted xs
    else match field.bind Field.itemFields? with
      | some fields => do return some (.array (← serializeItems render depth counted fields xs))
      | none => serializeLiteral (.tuple xs)
  | .map es =>
    if slotField field then pure none
    else match field.bind Field.entryFields? with
      | some fields => do return some (.object (← serializeEntries render depth fields es))
      | none => serializeLiteral (.map es)
  | v => if slotField field then pure none else serializeLiteral v
termination_by structural v => v

/-- The markup of the items of an array with declared item fields. The nodes among them are one
level deeper than the node that has the array, and one of a skipped type leaves no item. -/
def serializeItems (render : NodeRenderer) (depth : Int) (counted : Bool)
    (fields : Entries Field) : List Value → Render (List Markup)
  | [] => pure []
  | .markup m :: xs => do return m :: (← serializeItems render depth counted fields xs)
  | .map es :: xs => do
    let item ←
      if isNodeShaped (.map es) then render (depth + 1) (.map es) ⟨true, counted⟩
      else some <$> Markup.object <$> serializeEntries render depth fields es
    let items ← serializeItems render depth counted fields xs
    return item.toList ++ items
  | x :: xs => do
    let item ← Render.ofMisuse x.literal?
    return item :: (← serializeItems render depth counted fields xs)
termination_by structural xs => xs

/-- The markup of the entries of a map with declared fields; entries without markup are left out. -/
def serializeEntries (render : NodeRenderer) (depth : Int) (fields : Entries Field) :
    List (Value × Value) → Render (List (String × Markup))
  | [] => pure []
  | (k, v) :: es => do
    let value ← serialize render depth false (fields.find? k) v
    let entry ← Render.ofMisuse (keyedEntry k value)
    let entries ← serializeEntries render depth fields es
    return entry ++ entries
termination_by structural es => es

end

end PageMarkup
