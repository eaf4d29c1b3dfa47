import PageMarkup.Schema.Definition

/-!
# Reading a schema

The definitions of a schema are read as the components by type. The settings of a component stand
next to its fields or in a block of their own, which wins; most settings have two spellings, of
which the first one wins.

## Main definitions

* `Definition.asField`, `Definition.asFields` : fields.
* `Definition.asImport` : import requests.
* `Definition.asComponent`, `Definition.asTable` : components.
-/

namespace PageMarkup

/-- The kind that a field definition names, custom if it names none. -/
def fieldKind (es : Entries Definition) : FieldKind :=
  match es.find? (.str "type") with
  | some (.str name) => .ofName name
  | _ => .custom

mutual

/-- A field of the given name. -/
def Definition.asField (name : Value) : Definition → Except Fault Field
  | .field f => .ok f
  | .map es => do
    let arrayFields ← ((Definition.fieldsUnder "arrayFields" es).or
      (Definition.fieldsUnder "array_fields" es)).getD (.ok none)
    let objectFields ← ((Definition.fieldsUnder "objectFields" es).or
      (Definition.fieldsUnder "object_fields" es)).getD (.ok none)
    return .mk (fieldKind es) arrayFields objectFields
  | d => .error (.schema (.fieldNotMap name d.value.kindName))
termination_by structural d => d

/-- Fields by name; what counts as false has none. -/
def Definition.asFields : Definition → Except Fault (List (Value × Field))
  | .map es => Definition.fieldEntries es
  | d => if d.truthy then .error (.schema .fieldsNotMap) else .ok []
termination_by structural d => d

/-- The fields of the entries of a map. -/
def Definition.fieldEntries : List (Value × Definition) → Except Fault (List (Value × Field))
  | [] => .ok []
  | (name, d) :: es => do return (name, ← d.asField name) :: (← Definition.fieldEntries es)
termination_by structural es => es

/-- The fields under a key, if there is such a key; nothing under it means that no fields are
declared. -/
def Definition.fieldsUnder (key : String) :
    List (Value × Definition) → Option (Except Fault (Option (List (Value × Field))))
  | [] => none
  | (k, d) :: es =>
    if k.same (.str key) then
      some (match d with
        | .null => .ok none
        | d => d.asFields.map some)
    else Definition.fieldsUnder key es
termination_by structural es => es

end

/-- An import request. A default of `false` asks for no default export, and one that is no text
leaves its name to the tag. -/
def Definition.asImport (d : Definition) : Except Fault ImportSpec :=
  match d with
  | .request spec => .ok spec
  | .map es =>
    match Entries.find? es (.str "path") with
    | none => .error (.schema (.importWithoutPath d.value.inspect))
    | some path =>
      let named : ImportSpec := .named path.value
        (((Entries.firstOf es ["name", "import", "exported_name"]).map Definition.value).getD .null)
        (((Entries.find? es (.str "alias")).map Definition.value).getD .null)
      match Entries.find? es (.str "default") with
      | none => .ok named
      | some (.bool false) => .ok named
      | some (.str name) => .ok (.default path.value (.str name))
      | some _ => .ok (.default path.value .null)
  | d => .error (.schema (.importWithoutPath d.value.inspect))

/-- The import requests of a component: one or several, or none. -/
def readImports : Option Definition → Except Fault (List ImportSpec)
  | none => .ok []
  | some .null => .ok []
  | some (.list xs) => xs.mapM Definition.asImport
  | some (.tuple xs) => xs.mapM Definition.asImport
  | some d => do return [← d.asImport]

/-- The hook of a component of the given type. A factory can be called, but takes nothing of what a
hook is given. -/
def readHook (type : Value) : Option Definition → Except Fault (Option Hook)
  | none => .ok none
  | some .null => .ok none
  | some (.hook h) => .ok (some h)
  | some (.factory _) => .ok (some (.failing (.misuse .notIterable)))
  | some _ => .error (.schema (.hookNotCallable type))

/-- The properties that a component leaves out. -/
def readOmitted : Option Definition → Except Fault (List Value)
  | none => .ok []
  | some d => if d.truthy then liftMisuse (do return (← d.items).map Definition.value) else .ok []

/-- The settings of a component: what stands next to its fields, and over it what stands in its
block for code generation. -/
def componentSettings (es : Entries Definition) : Except Fault (Entries Definition) :=
  match Entries.find? es (.str "codegen") with
  | none => .ok es
  | some block =>
    if block.truthy then liftMisuse (do return Entries.putAll es (← block.readEntries)) else .ok es

/-- The component of the given type. -/
def Definition.asComponent (type : Value) (d : Definition) : Except Fault Component :=
  match d with
  | .component c => .ok c
  | .map es => do
    let settings ← componentSettings es
    let imports ← readImports (settings.firstOf ["import", "imports"])
    let hook ← readHook type (settings.firstOf ["props_transform", "mapProps"])
    let fields ← ((Entries.find? es (.str "fields")).map Definition.asFields).getD (.ok [])
    let omitted ← readOmitted (settings.firstOf ["omit_props", "omitProps"])
    return {
      fields, imports, hook, omitted
      outputName :=
        ((settings.firstOf ["output_name", "component"]).map Definition.value).getD .null
      skip := ((settings.find? (.str "skip")).map Definition.truthy).getD false }
  | _ => .error (.schema (.componentNotMap type))

/-- The components by type: those under the key for components, or else those of the map itself. -/
def Definition.asTable (d : Definition) : Except Fault ComponentTable :=
  match d with
  | .map es =>
    match (Entries.find? es (.str "components")).getD d with
    | .map cs => cs.mapM fun e => do return (e.1, ← e.2.asComponent e.1)
    | _ => .error (.schema .componentsNotMap)
  | _ => .error (.schema .schemaNotMap)

/-- The number of component types that a schema names; only a map names any. -/
def Definition.typeCount (d : Definition) : Except Misuse Nat :=
  match d with
  | .map es =>
    match Entries.find? es (.str "components") with
    | some (.map cs) => .ok cs.length
    | _ => .ok es.length
  | _ => .error .noEntries

end PageMarkup
