import PageMarkup.Imports.Spec
import PageMarkup.Schema.Field
import PageMarkup.Schema.Hook

/-!
# Components

A component tells how the content nodes of one type become markup: by which fields their properties
are read, under which tag they are written, what they import, which properties are left out, and
whether a hook changes the properties or the nodes are skipped.

## Main definitions

* `Component`, `ComponentTable` : components, and the components by type.
* `ComponentTable.component?` : the component of a type.
-/

namespace PageMarkup

/-- How the nodes of a type become markup. -/
structure Component where
  fields : Entries Field
  outputName : Value
  imports : List ImportSpec
  hook : Option Hook
  skip : Bool
  omitted : List Value

namespace Component

/-- The component without any settings: every property is a plain value. -/
def plain : Component where
  fields := []
  outputName := .null
  imports := []
  hook := none
  skip := false
  omitted := []

def field? (c : Component) (name : Value) : Option Field :=
  c.fields.find? name

/-- The names of the slots in order of declaration. -/
def slotNames (c : Component) : List Value :=
  Entries.keys (c.fields.filter fun e => e.2.isSlot)

/-- The tag of a node of a type: the output name if there is one, and the type otherwise. -/
def tag (c : Component) (type : Value) : Value :=
  if c.outputName.truthy then c.outputName else type

/-- The inspected form of a component. -/
def inspect (c : Component) : String :=
  "ComponentConfig(fields=" ++ Field.inspectDeclared (some c.fields) ++
    ", output_name=" ++ c.outputName.inspect ++
    ", imports=" ++ inspectTuple (c.imports.map ImportSpec.inspect) ++
    ", props_transform=" ++ (if c.hook.isSome then "<function>" else "None") ++
    ", skip=" ++ (Value.bool c.skip).inspect ++
    ", omit_props=" ++ inspectTuple (c.omitted.map Value.inspect) ++ ")"

end Component

/-- The components by type. -/
abbrev ComponentTable := Entries Component

/-- The component of a type; only a text names one. -/
def ComponentTable.component? (table : ComponentTable) (type : Value) : Option Component :=
  if type.isStr then Entries.find? table type else none

end PageMarkup
