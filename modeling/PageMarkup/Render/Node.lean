import PageMarkup.Render.Serialize

/-!
# Nodes as markup

A content node becomes an element. Its slots are rendered first; the bookkeeping of the editor and
the properties that the component leaves out are dropped; the hook of the component may change what
is left; the values become attributes, and the one named `children` becomes the content of the
element. Last the requests of the component are met, and a node among siblings takes its id as key.

The depth of a node is handed on to its slots and values, which render the nodes in them one level
deeper, and a node beyond the maximum depth is refused. How nodes are rendered is a parameter of all
this; the renderer is what comes of it when the calls are carried out, as many levels down as there
are up to the maximum depth.

## Main definitions

* `hookedProps` : what a node writes according to its hook.
* `assemble`, `renderElement` : the parts of an element, and the element of a node.
* `renderNode` : a node, given how the nodes in it are rendered.
* `renderWithin` : a node, calls of the renderer carried out up to a number of levels.
* `renderer` : a node at a depth.
-/

namespace PageMarkup

/-- The property that identifies a node in the editor. -/
def idName : Value := .str "id"

/-- The attribute that tells siblings apart. -/
def keyName : Value := .str "key"

/-- The property that becomes the content of an element. -/
def childrenName : Value := .str "children"

/-- The bookkeeping of the editor, which never reaches the output. -/
def internalNames : List Value := [.str "puck", .str "editMode"]

/-- Whether a name equals one of several. -/
def nameIn (name : Value) (names : List Value) : Bool :=
  names.any fun n => n.same name

/-- The properties of a node as they stand in it; what counts as false holds none. -/
def ownProps (node : Value) : Except Misuse (Entries Value) :=
  match node.get? "props" with
  | none => .ok []
  | some props => if props.truthy then props.readEntries else .ok []

/-- The names that are dropped from the properties of a component's nodes. -/
def strippedNames (component : Component) (settings : Settings) : Except Misuse (List Value) :=
  if component.omitted.all Value.hashable then
    .ok (internalNames ++ component.omitted ++ if settings.preserveIds.truthy then [] else [idName])
  else .error .notHashable

/-- The properties that are neither slots nor dropped. -/
def plainProps (component : Component) (stripped : List Value) (props : Entries Value) :
    Entries Value :=
  props.filter fun e => !nameIn e.1 component.slotNames && !nameIn e.1 stripped

/-- The markup of each slot of a component. -/
def renderSlots (render : NodeRenderer) (depth : Int) (counted : Bool) (component : Component)
    (props : Entries Value) : Render (Entries (Option Markup)) :=
  component.slotNames.mapM fun name => do
    return (name, ← renderSlotValue render depth counted ((props.find? name).getD .null))

/-- A value that a node writes, and the name of the property or slot it was given under, if it was
given at all. -/
structure Sourced where
  value : Value
  source : Option Value

/-- What a node without a hook writes: its properties in order, a slot by its markup. -/
def unhookedProps (stripped : List Value) (props : Entries Value)
    (slots : Entries (Option Markup)) : Entries Sourced :=
  props.filterMap fun e =>
    match slots.find? e.1 with
    | some m => some (e.1, ⟨slotValue m, some e.1⟩)
    | none => if nameIn e.1 stripped then none else some (e.1, ⟨e.2, some e.1⟩)

/-- Properties as given under their own names. -/
def ownSourced (props : Entries Value) : Entries Sourced :=
  props.map fun e => (e.1, ⟨e.2, some e.1⟩)

/-- The name that an object was given under: the one under which it is given back, if it was given
under this name, and otherwise the first. Nothing is never looked for. -/
def HookInput.sourceOf (given : HookInput) (name : Value) (object : Object) : Option Value :=
  if object.value.isNull then none
  else
    let names := given.namesOf object.id
    if nameIn name names then some name else names.head?

/-- What a node with a hook writes, given its plain properties, what its hook was given and what the
hook brings about. -/
def hookedProps (plain : Entries Value) (given : HookInput) (outcome : HookOutcome) :
    Except Misuse (Entries Sourced) :=
  match outcome.result with
  | .nothing => .ok (ownSourced (appendItems plain outcome.appended))
  | .entries read => do
    return (← read).map fun e => (e.1, ⟨e.2.value, given.sourceOf e.1 e.2⟩)

/-- The content of an element from its property: a text stands for itself unless it is empty. -/
def renderChildren (render : NodeRenderer) (depth : Int) (counted : Bool) (field : Option Field)
    (v : Value) : Render (List Markup) :=
  match v with
  | .str s => pure (if s.isEmpty then [] else [.text s])
  | v => do return (← serialize render depth counted field v).toList

/-- The attributes and the content of an element. A value that was given under another name than it
is written by is read by the field of that other name. Only a value of the node itself is in a place
that counts as holding nodes. -/
def assemble (render : NodeRenderer) (depth : Int) (counted : Bool) (component : Component) :
    Entries Sourced → Render (List (Value × Markup) × List Markup)
  | [] => pure ([], [])
  | (name, item) :: rest => do
    let field := component.field? (item.source.getD name)
    let counted' := counted && item.source.isSome
    if name.same childrenName then
      let content ← renderChildren render depth counted' field item.value
      let (attributes, _) ← assemble render depth counted component rest
      return (attributes, content)
    else
      let value ← serialize render depth counted' field item.value
      let (attributes, content) ← assemble render depth counted component rest
      return ((value.map fun m => (name, m)).toList ++ attributes, content)

/-- The literal of a key: texts and integers as they are, everything else by its text. -/
def keyLiteral (id : Value) : Except Misuse Markup :=
  match id with
  | .str s => .ok (.literal (.str s))
  | .int n => .ok (.literal (.int n))
  | v => do return .literal (.str (← v.text?))

/-- Attributes with the id of a node as key before them, unless the node has no id or the attributes
have a key. -/
def withListKey (attributes : List (Value × Markup)) (id : Value) :
    Except Misuse (List (Value × Markup)) :=
  if id.isNull || id.same (.str "") || attributes.any (fun a => a.1.same keyName) then
    .ok attributes
  else do return (keyName, ← keyLiteral id) :: attributes

/-- The attributes of a node with an id: one of several siblings has its id as key if the settings
ask for keys. -/
def itemAttributes (settings : Settings) (listItem : Bool) (attributes : List (Value × Markup))
    (id : Value) : Except Misuse (List (Value × Markup)) :=
  if listItem && settings.listKeys.truthy then withListKey attributes id else .ok attributes

/-- What a node of a component writes, and its own properties afterwards. -/
def mapProps (component : Component) (stripped : List Value) (counted : Bool)
    (props : Entries Value) (slots : Entries (Option Markup)) :
    Render (Entries Sourced × Entries Value) :=
  match component.hook with
  | none => pure (unhookedProps stripped props slots, props)
  | some hook => do
    let plain := plainProps component stripped props
    let given := hook.given plain slots
    let outcome ← Render.ofExcept (hook.call given)
    if counted then Render.noteAppended (outcome.appended.map (·.2))
    let written ← Render.ofMisuse (hookedProps plain given outcome)
    return (written, appendItems props outcome.appended)

/-- The element of a node of a component that is not skipped. -/
def renderElement (settings : Settings) (render : NodeRenderer) (depth : Int)
    (component : Component) (type node : Value) (place : Place) : Render Markup := do
  let props ← Render.ofMisuse (ownProps node)
  let slots ← renderSlots render depth place.counted component props
  let stripped ← Render.ofMisuse (strippedNames component settings)
  let (written, props) ← mapProps component stripped place.counted props slots
  let (attributes, content) ← assemble render depth place.counted component written
  let tag := component.tag type
  Render.register (← Render.ofMisuse (component.imports.mapM fun spec => spec.bind tag))
  let id := (props.find? idName).getD .null
  let attributes ← Render.ofMisuse (itemAttributes settings place.listItem attributes id)
  return .element tag attributes content

/-- The markup of a node that is not too deep, by the component of its type. -/
def renderTyped (table : ComponentTable) (settings : Settings) (render : NodeRenderer) :
    NodeRenderer := fun depth node place =>
  match node.get? "type" with
  | none => Render.fail (.content (.invalidNode node))
  | some type =>
    match table.component? type with
    | none => Render.fail (.unknownType type)
    | some component =>
      if component.skip then pure none
      else some <$> renderElement settings render depth component type node place

/-- The markup of a node, given how the nodes in it are rendered. -/
def renderNode (table : ComponentTable) (settings : Settings) (render : NodeRenderer) :
    NodeRenderer := fun depth node place => do
  if ← Render.ofMisuse (settings.isBeyond depth) then
    Render.fail (.content (.tooDeep settings.maxDepth))
  else renderTyped table settings render depth node place

/-- The markup of a node, calls of the renderer carried out up to a number of levels. -/
def renderWithin (table : ComponentTable) (settings : Settings) : (levels : Nat) → NodeRenderer
  | 0 => fun _ _ _ => Render.fail (.content (.tooDeep settings.maxDepth))
  | n + 1 => renderNode table settings (renderWithin table settings n)

/-- The markup of a node at a depth. The calls at the levels up to the maximum depth are carried
out, and so is one more, which is refused. -/
def renderer (table : ComponentTable) (settings : Settings) : NodeRenderer := fun depth =>
  renderWithin table settings (settings.levels depth + 1) depth

end PageMarkup
