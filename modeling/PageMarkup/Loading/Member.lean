import PageMarkup.Loading.Operation

/-!
# Members

A reference names a member of a module, a member of that member, and so on. What has parts has them
as members: a namespace, a finished field, import request, component, markup or settings. Next to
them stand the operations of a definition and what every definition has, such as its kind. The
last member of the way is called where it can be.

## Main definitions

* `SchemaModule` : the members of a module by name.
* `Member` : what the way through the members of a module leads to.
* `Member.member?` : one step of the way.
* `Member.schema` : the schema at the end of the way.
-/

namespace PageMarkup

/-- The members of a module by name. -/
abbrev SchemaModule := List (String × Definition)

/-- What the way through the members of a module leads to: the module itself, a definition, the kind
of a field, or something to call with what calling it gives. -/
inductive Member where
  | schemaModule (name : String) (members : SchemaModule)
  | definition (d : Definition)
  | fieldKind (k : FieldKind)
  | operation (name : String) (result : Except Misuse Definition)

/-- Fields by name as a definition, nothing where none are declared. -/
def Definition.ofFields? : Option (Entries Field) → Definition
  | some es => .map (es.map fun e => (e.1, .field e.2))
  | none => .null

/-- The parts of markup by name. -/
def Markup.namedParts : Markup → List (String × Definition)
  | .literal v => [("value", .ofValue v)]
  | .raw code => [("code", .str code)]
  | .text content => [("text", .str content)]
  | .array items => [("items", .tuple (items.map .markup))]
  | .object entries =>
    [("entries", .tuple (entries.map fun e => .tuple [.str e.1, .markup e.2]))]
  | .element tag attributes children => [
    ("tag", .ofValue tag),
    ("attributes", .tuple (attributes.map fun e => .tuple [.ofValue e.1, .markup e.2])),
    ("children", .tuple (children.map .markup))]
  | .fragment children => [("children", .tuple (children.map .markup))]

/-- The parts of an import request by name. -/
def ImportSpec.namedParts : ImportSpec → List (String × Definition)
  | .named path name rename =>
    [("path", .ofValue path), ("exported_name", .ofValue name), ("alias", .ofValue rename)]
  | .default path name => [("path", .ofValue path), ("local_name", .ofValue name)]

/-- The parts of a component by name. -/
def Component.namedParts (c : Component) : List (String × Definition) := [
  ("fields", .ofFields? (some c.fields)), ("output_name", .ofValue c.outputName),
  ("imports", .tuple (c.imports.map .request)),
  ("props_transform", (c.hook.map Definition.hook).getD .null), ("skip", .bool c.skip),
  ("omit_props", .tuple (c.omitted.map .ofValue))]

namespace Member

/-- A member where a definition is needed; the kind of a field is an object that no rule
recognises. -/
def toDefinition : Member → Definition
  | .definition d => d
  | .fieldKind k => .foreign "FieldKind" k.inspect
  | .operation _ _ => .foreign "function" "<function>"
  | .schemaModule name _ => .foreign "module" ("<module '" ++ name ++ "'>")

def ofParts (parts : List (String × Definition)) : List (String × Member) :=
  parts.map fun e => (e.1, .definition e.2)

/-- A map with the names of members as keys. -/
def asMap (members : List (String × Member)) : Definition :=
  .map (members.map fun e => (.str e.1, e.2.toDefinition))

end Member

namespace Definition

/-- The parts by name of a definition that consists of named parts. -/
def parts? : Definition → Option (List (String × Member))
  | .namespace members => some (Member.ofParts members)
  | .markup m => some (Member.ofParts m.namedParts)
  | .request spec => some (Member.ofParts spec.namedParts)
  | .component c => some (Member.ofParts c.namedParts)
  | .settings s => some (Member.ofParts (s.toEntries.map fun e => (e.1.text, .ofValue e.2)))
  | .field f =>
    some (("kind", .fieldKind f.kind) :: Member.ofParts [
      ("array_fields", .ofFields? f.arrayFields), ("object_fields", .ofFields? f.objectFields)])
  | _ => none

/-- What follows from a definition without being one of its parts. -/
def traits : Definition → List (String × Definition)
  | .bool b =>
    let n : Int := if b then 1 else 0
    [("real", .int n), ("imag", .int 0), ("numerator", .int n), ("denominator", .int 1)]
  | .int n => [("real", .int n), ("imag", .int 0), ("numerator", .int n), ("denominator", .int 1)]
  | .float x => [("real", .float x), ("imag", .float 0)]
  | .markup (.element tag attributes children) =>
    [("self_closing", .bool (Markup.element tag attributes children).isSelfClosing)]
  | .field f => [("is_slot", .bool f.isSlot)]
  | _ => []

/-- The number of items of a definition. -/
def size? : Definition → Option Nat
  | .str s => some s.length
  | .list ds => some ds.length
  | .tuple ds => some ds.length
  | .map es => some es.length
  | _ => none

/-- What calling the kind of a definition gives: the blank definition of the kind where there is
one. The kinds of maps and arrays have a member that keeps them from being called. -/
def blank : Definition → Except Misuse Definition
  | .null => .ok .null
  | .bool _ => .ok (.bool false)
  | .int _ => .ok (.int 0)
  | .float _ => .ok (.float 0)
  | .str _ => .ok (.str "")
  | .list _ => .ok (.list [])
  | .tuple _ => .ok (.tuple [])
  | .map _ => .ok (.foreign "type" "<class 'dict'>")
  | .markup (.array _) => .ok (.foreign "type" "<class 'ArrayExpression'>")
  | .markup (.object _) => .ok (.markup (.object []))
  | .markup (.fragment _) => .ok (.markup (.fragment []))
  | .component _ => .ok (.component Component.plain)
  | .settings _ => .ok (.settings Settings.default)
  | .namespace _ => .ok (.namespace [])
  | _ => .error .notTold

/-- What every definition has: its kind, its text and its inspected form, its size if it has items,
and a map of its parts if it consists of named parts. -/
def generalMember? (d : Definition) (name : String) : Option Member :=
  match name with
  | "__class__" => some (.operation d.value.kindName d.blank)
  | "__str__" => some (.operation name (.ok (.str d.value.text)))
  | "__repr__" => some (.operation name (.ok (.str d.value.inspect)))
  | "__len__" => d.size?.map fun n => .operation name (.ok (.int n))
  | "__dict__" => d.parts?.map fun parts => .definition (Member.asMap parts)
  | _ => none

/-- A member of a definition. -/
def member? (d : Definition) (name : String) : Option Member :=
  (d.parts?.getD []).lookup name <|>
    (d.traits.lookup name).map .definition <|>
    (d.operations.lookup name).map (.operation name) <|>
    d.generalMember? name

end Definition

/-- What every module has: its name, and four entries about its source that are nothing here. -/
def moduleEntries (name : String) : List (String × Definition) := [
  ("__name__", .str name), ("__doc__", .null), ("__package__", .null), ("__loader__", .null),
  ("__spec__", .null)]

/-- The name of a kind in capitals, as the kinds have each other as members. -/
def FieldKind.symbol (k : FieldKind) : String :=
  k.name.map Char.toUpper

/-- A member of the kind of a field: its value, its symbol, or another kind by its symbol. -/
def FieldKind.member? (k : FieldKind) (name : String) : Option Member :=
  match name with
  | "value" => some (.definition (.str k.name))
  | "name" => some (.definition (.str k.symbol))
  | "__class__" => some (.operation "FieldKind" (.error .notTold))
  | _ => (FieldKind.all.find? fun other => other.symbol == name).map .fieldKind

namespace Member

/-- A member of a member. -/
def member? (m : Member) (name : String) : Option Member :=
  match m with
  | .schemaModule own members =>
    let entries := Entries.putAll ((moduleEntries own).map fun e => (.str e.1, e.2))
      (members.map fun e => (.str e.1, e.2))
    if name = "__class__" then some (.operation "module" (.error .notTold))
    else if name = "__dict__" then some (.definition (.map entries))
    else (entries.find? (.str name)).map .definition
  | .definition d => d.member? name
  | .fieldKind k => k.member? name
  | .operation own result =>
    match name with
    | "__name__" => some (.definition (.str own))
    | "__call__" => some (.operation name result)
    | _ => none

/-- The member at the end of a way through members. -/
def follow? (m : Member) (way : List String) : Option Member :=
  way.foldlM Member.member? m

/-- The schema that a member stands for: what can be called is called. -/
def schema : Member → Except Misuse Definition
  | .definition (.factory result) => .ok result
  | .definition (.hook _) => .error .notTold
  | .operation _ result => result
  | m => .ok m.toDefinition

end Member

end PageMarkup
