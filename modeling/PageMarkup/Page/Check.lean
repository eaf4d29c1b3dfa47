import PageMarkup.Page.Content
import PageMarkup.Schema.Reading
import PageMarkup.Settings.Checks

/-!
# Checks of content

A document is checked against a table of components before it is generated. The check reports nodes
of unknown type and properties that no field describes; it goes down through the slots of the nodes
it meets, and only through these. Reports do not stop a run.

## Main definitions

* `ContentWarning` : what is reported.
* `checkNodes` : the reports on nodes and what is below them.
* `checkContent` : the reports on a document under settings.
-/

namespace PageMarkup

/-- What is reported on a document. -/
inductive ContentWarning where
  | empty
  | settings (cause : SettingsWarning)
  | unknownType (type : Value)
  | undescribed (type name : Value)

def ContentWarning.message : ContentWarning → String
  | .empty => "Content tree is empty"
  | .settings cause => cause.message
  | .unknownType type => "Unknown component type " ++ quotedText type
  | .undescribed type name =>
    "Prop " ++ type.text ++ "." ++ name.text ++
      " has no field descriptor; emitted as a plain literal"

/-- The properties that need no field: the bookkeeping of the editor. -/
def undescribedNames : List Value := [.str "puck", .str "editMode", .str "id"]

mutual

/-- The reports on a value in a list of nodes; only a map is a node. -/
def checkNode (table : ComponentTable) : Value → Except Misuse (List ContentWarning)
  | .map es =>
    let type := (Entries.find? es (.str "type")).getD .null
    match table.component? type with
    | none => .ok [.unknownType type]
    | some component => checkInProps table component type es
  | _ => .ok []
termination_by structural v => v

/-- The reports on a list of nodes. -/
def checkNodes (table : ComponentTable) : List Value → Except Misuse (List ContentWarning)
  | [] => .ok []
  | v :: vs => do return (← checkNode table v) ++ (← checkNodes table vs)
termination_by structural vs => vs

/-- The reports on the properties of a node, given the entries of the node. -/
def checkInProps (table : ComponentTable) (component : Component) (type : Value) :
    List (Value × Value) → Except Misuse (List ContentWarning)
  | [] => .ok []
  | (k, v) :: es =>
    if k.same (.str "props") then
      match v with
      | .map props => checkProps table component type props
      | v => if v.truthy then .error .noEntries else .ok []
    else checkInProps table component type es
termination_by structural es => es

/-- The reports on properties, and on the nodes in the slots among them. -/
def checkProps (table : ComponentTable) (component : Component) (type : Value) :
    List (Value × Value) → Except Misuse (List ContentWarning)
  | [] => .ok []
  | (name, v) :: es => do
    let here ← match component.field? name with
      | none =>
        .ok (if undescribedNames.any fun n => n.same name then [] else [.undescribed type name])
      | some field =>
        if field.isSlot then
          match v with
          | .list xs => checkNodes table xs
          | .tuple xs => checkNodes table xs
          | _ => .ok []
        else .ok []
    return here ++ (← checkProps table component type es)
termination_by structural es => es

end

/-- The reports on a document under settings. -/
def checkContent (settings : Settings) (document : Value) (schema : Definition) :
    Except Fault (List ContentWarning) := do
  let nodes ← contentNodes document
  let table ← schema.asTable
  let found ← liftMisuse (checkNodes table nodes)
  return (if nodes.isEmpty then [.empty] else []) ++ settings.warnings.map .settings ++ found

end PageMarkup
