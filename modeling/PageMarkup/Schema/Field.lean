import PageMarkup.Content.Display
import PageMarkup.Content.Entries

/-!
# Fields of components

A field says how a property of a component is meant: as a plain value, as a slot of nested content,
as an array whose items have fields, or as an object with fields. Kinds that only an editor tells
apart are plain values here.

## Main definitions

* `FieldKind`, `Field` : kinds and fields.
* `isNodeShaped` : whether a value has the shape of a content node.
-/

namespace PageMarkup

/-- The kinds of fields. -/
inductive FieldKind where
  | text
  | number
  | boolean
  | slot
  | array
  | object
  | textarea
  | select
  | radio
  | custom
  | external
  deriving DecidableEq

namespace FieldKind

/-- The name of a kind in a schema. -/
def name : FieldKind → String
  | .text => "text"
  | .number => "number"
  | .boolean => "boolean"
  | .slot => "slot"
  | .array => "array"
  | .object => "object"
  | .textarea => "textarea"
  | .select => "select"
  | .radio => "radio"
  | .custom => "custom"
  | .external => "external"

def all : List FieldKind :=
  [.text, .number, .boolean, .slot, .array, .object, .textarea, .select, .radio, .custom, .external]

/-- The kind of a name; an unknown name means a custom field. -/
def ofName (name : String) : FieldKind :=
  (all.find? fun k => k.name == name).getD .custom

theorem ofName_name (k : FieldKind) : ofName k.name = k := by
  cases k <;> decide

end FieldKind

/-- A field: its kind, and the fields of the items of an array or of the entries of an object where
they are declared. -/
inductive Field where
  | mk (kind : FieldKind) (arrayFields objectFields : Option (List (Value × Field)))

namespace Field

def kind : Field → FieldKind
  | .mk k _ _ => k

/-- The declared fields of the items of an array. -/
def arrayFields : Field → Option (Entries Field)
  | .mk _ a _ => a

/-- The declared fields of the entries of an object. -/
def objectFields : Field → Option (Entries Field)
  | .mk _ _ o => o

/-- Whether a field holds nested content. -/
def isSlot (f : Field) : Bool :=
  f.kind == .slot

/-- The fields by which the items of a sequence under this field are read. -/
def itemFields? (f : Field) : Option (Entries Field) :=
  if f.kind = .array then f.arrayFields else none

/-- The fields by which the entries of a map under this field are read. -/
def entryFields? (f : Field) : Option (Entries Field) :=
  if f.kind = .object then f.objectFields else none

end Field

/-- The inspected form of a kind: its symbol and its name. -/
def FieldKind.inspect (k : FieldKind) : String :=
  "<FieldKind." ++ k.name.map Char.toUpper ++ ": " ++ (Value.str k.name).inspect ++ ">"

mutual

/-- The inspected form of a field. -/
def Field.inspect : Field → String
  | .mk kind arrayFields objectFields =>
    "FieldDescriptor(kind=" ++ kind.inspect ++ ", array_fields=" ++
      Field.inspectDeclared arrayFields ++ ", object_fields=" ++
      Field.inspectDeclared objectFields ++ ")"
termination_by structural f => f

/-- The inspected form of fields that may be declared. -/
def Field.inspectDeclared : Option (List (Value × Field)) → String
  | none => "None"
  | some es => "\x7b" ++ commaSeparated (Field.inspectEntries es) ++ "\x7d"
termination_by structural es => es

/-- The inspected forms of fields by name. -/
def Field.inspectEntries : List (Value × Field) → List String
  | [] => []
  | (name, f) :: es => (name.inspect ++ ": " ++ f.inspect) :: Field.inspectEntries es
termination_by structural es => es

end

/-- Whether a value has the shape of a content node: a map with a text as its type and a map of
properties. Everything else is data. -/
def isNodeShaped (v : Value) : Bool :=
  match v.get? "type", v.get? "props" with
  | some (.str _), some (.map _) => true
  | _, _ => false

end PageMarkup
